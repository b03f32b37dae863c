import RelayClient.Proofs.Credential.Reading

/-!
# Reading where memory is short

A text that cannot be opened is refused and leaves no trace, whatever it is, as long as the keys that
reading it asks for can be derived at all. Nothing bounds the cost that a stored record names: one
whose table does not fit in memory is not refused, it ends the program.
-/

namespace RelayClient

namespace KeyStore

variable {raw password : String} {trusted : TrustedKey} {memory : Memory} {keys : KeyStore} {draw : Draw}

/-- A derivation of a read asks for more memory than there is: the one for the key of the record, or,
once a deprecated record has opened, the timed run or the one for the record that takes its place. -/
inductive Exhausts (memory : Memory) (keys : KeyStore) (password : String) (draw : Draw) : Prop where
  | current {raw : String} {record : DecodedRecord} (stored : keys.storage.get recordKey = .ok (some raw))
      (spelled : (StoredBox.current record).SpelledBy raw) (exhausted : memory.isExhaustedBy record.work = true)
  | timed {raw nonceText boxText : String} {trusted : TrustedKey}
      (stored : keys.storage.get recordKey = .ok (some raw))
      (format : StoredFormat.classify raw = .deprecated nonceText boxText) (opens : Opens raw password trusted)
      (exhausted : memory.isExhaustedBy .benchmark = true)
  | renewed {raw nonceText boxText : String} {trusted : TrustedKey} {logN : Nat}
      (stored : keys.storage.get recordKey = .ok (some raw))
      (format : StoredFormat.classify raw = .deprecated nonceText boxText) (opens : Opens raw password trusted)
      (picked : WorkFactor.extrapolate draw.elapsed WorkFactor.benchmarkLogN keys.target = .ok logN)
      (exhausted : memory.isExhaustedBy (.standard (UInt8.ofNat logN)) = true)

theorem mem_costs_of_current {text : String} {work : WorkFactor} (stored : keys.storage.get recordKey = .ok (some raw))
    (format : StoredFormat.classify raw = .current text) :
    work ∈ keys.costs password draw ↔ ∃ record, (DecodedRecord.decode raw).1 = some record ∧ record.work = work := by
  rw [costs, stored]
  dsimp only
  rw [format]
  exact Option.mem_toList.trans Option.map_eq_some_iff

/-- Once a deprecated record has opened, a run is timed, and if that yields a cost, the new record is sealed at it. -/
theorem mem_costs_of_opens {nonceText boxText : String} {work : WorkFactor}
    (stored : keys.storage.get recordKey = .ok (some raw))
    (format : StoredFormat.classify raw = .deprecated nonceText boxText) (opens : Opens raw password trusted) :
    work ∈ keys.costs password draw ↔ work = .benchmark ∨
      ∃ logN, WorkFactor.extrapolate draw.elapsed WorkFactor.benchmarkLogN keys.target = .ok logN ∧
        work = .standard (UInt8.ofNat logN) := by
  rw [costs, stored]
  dsimp only
  rw [format]
  dsimp only
  rw [(openDeprecated_eq_ok_iff format).mpr opens]
  cases WorkFactor.extrapolate draw.elapsed WorkFactor.benchmarkLogN keys.target <;> simp

/-- Nothing is derived anew while a text does not open. -/
theorem costs_of_refused {nonceText boxText : String} (stored : keys.storage.get recordKey = .ok (some raw))
    (format : StoredFormat.classify raw = .deprecated nonceText boxText)
    (refused : openDeprecated nonceText boxText password = .error .decryptionFailed) :
    keys.costs password draw = [] := by
  rw [costs, stored]
  dsimp only
  rw [format]
  dsimp only
  rw [refused]

theorem exhausts_of_mem {work : WorkFactor} (mem : work ∈ keys.costs password draw)
    (exhausted : memory.isExhaustedBy work = true) : Exhausts memory keys password draw := by
  cases found : keys.storage.get recordKey with
  | error failure =>
      rw [costs, found] at mem
      cases mem
  | ok content =>
      cases content with
      | none =>
          rw [costs, found] at mem
          cases mem
      | some raw =>
          cases format : StoredFormat.classify raw with
          | current text =>
              obtain ⟨record, read, rfl⟩ := (mem_costs_of_current found format).mp mem
              exact .current found (.current format read) exhausted
          | deprecated nonceText boxText =>
              rcases openDeprecated_cases nonceText boxText password with ⟨trusted, opened⟩ | refused
              · have opens := (openDeprecated_eq_ok_iff format).mp opened
                rcases (mem_costs_of_opens found format opens).mp mem with rfl | ⟨logN, picked, rfl⟩
                · exact .timed found format opens exhausted
                · exact .renewed found format opens picked exhausted
              · rw [costs_of_refused found format refused] at mem
                cases mem

/-- The derivations of a read are tried one by one, and so it is found out whether one of them asks for too much. -/
theorem any_costs_iff :
    (keys.costs password draw).any memory.isExhaustedBy = true ↔ Exhausts memory keys password draw := by
  rw [List.any_eq_true]
  constructor
  · rintro ⟨work, mem, exhausted⟩
    exact exhausts_of_mem mem exhausted
  · intro exhausts
    cases exhausts with
    | current stored spelled exhausted =>
        cases spelled with
        | current format read => exact ⟨_, (mem_costs_of_current stored format).mpr ⟨_, read, rfl⟩, exhausted⟩
    | timed stored format opens exhausted =>
        exact ⟨_, (mem_costs_of_opens stored format opens).mpr (.inl rfl), exhausted⟩
    | renewed stored format opens picked exhausted =>
        exact ⟨_, (mem_costs_of_opens stored format opens).mpr (.inr ⟨_, picked, rfl⟩), exhausted⟩

/-- A read that asks for too much ends with the store as it was. -/
theorem Exhausts.retrieveWithin (exhausts : Exhausts memory keys password draw) :
    keys.retrieveWithin memory password draw = (keys, none) := by
  rw [KeyStore.retrieveWithin, if_pos (any_costs_iff.mpr exhausts)]

/-- A read for which memory suffices is the read on a machine that grants all. -/
theorem retrieveWithin_of_not_exhausts (enough : ¬ Exhausts memory keys password draw) :
    keys.retrieveWithin memory password draw =
      ((keys.retrieve password draw).1, some (keys.retrieve password draw).2) := by
  rw [KeyStore.retrieveWithin, if_neg fun any => enough (any_costs_iff.mp any)]

theorem Exhausts.exists_stored (exhausts : Exhausts memory keys password draw) :
    ∃ raw, keys.storage.get recordKey = .ok (some raw) := by
  cases exhausts with
  | current stored | timed stored | renewed stored => exact ⟨_, stored⟩

theorem retrieveWithin_eq_none_iff :
    (keys.retrieveWithin memory password draw).2 = none ↔ Exhausts memory keys password draw := by
  by_cases exhausts : Exhausts memory keys password draw
  · simp [exhausts.retrieveWithin, exhausts]
  · simp [retrieveWithin_of_not_exhausts exhausts, exhausts]

theorem retrieveWithin_eq_some_iff {result : Except Failure (Option TrustedKey)} :
    (keys.retrieveWithin memory password draw).2 = some result ↔
      ¬ Exhausts memory keys password draw ∧ (keys.retrieve password draw).2 = result := by
  by_cases exhausts : Exhausts memory keys password draw
  · simp [exhausts.retrieveWithin, exhausts]
  · simp [retrieveWithin_of_not_exhausts exhausts, exhausts]

/-- The store stays as it is, unless a deprecated record was opened and its credential told. -/
theorem retrieveWithin_unchanged (reliable : keys.storage.Reliable) (memory : Memory) (password : String) (draw : Draw) :
    (keys.retrieveWithin memory password draw).1 = keys ∨
      ∃ raw nonceText boxText trusted, keys.storage.get recordKey = .ok (some raw) ∧
        StoredFormat.classify raw = .deprecated nonceText boxText ∧
        (keys.retrieveWithin memory password draw).2 = some (.ok (some trusted)) := by
  by_cases exhausts : Exhausts memory keys password draw
  · exact .inl (congrArg Prod.fst exhausts.retrieveWithin)
  · rw [retrieveWithin_of_not_exhausts exhausts]
    rcases (retrieved_retrieve reliable password draw).unchanged with same | ⟨raw, nonceText, boxText, trusted, stored,
      format, told⟩
    · exact .inl same
    · exact .inr ⟨raw, nonceText, boxText, trusted, stored, format, congrArg some told⟩

/-- The store after some reads, each with the password and the draw it is made with. -/
def retrieveAllWithin (memory : Memory) (keys : KeyStore) (attempts : List (String × Draw)) : KeyStore :=
  attempts.foldl (fun current attempt => (current.retrieveWithin memory attempt.1 attempt.2).1) keys

/-- Attempts that tell no credential leave no trace, however many there are. -/
theorem retrieveAllWithin_of_untold (reliable : keys.storage.Reliable) {attempts : List (String × Draw)}
    (untold : ∀ attempt ∈ attempts, ∀ trusted,
      (keys.retrieveWithin memory attempt.1 attempt.2).2 ≠ some (.ok (some trusted))) :
    keys.retrieveAllWithin memory attempts = keys := by
  induction attempts with
  | nil => rfl
  | cons attempt rest ih =>
      have same : (keys.retrieveWithin memory attempt.1 attempt.2).1 = keys := by
        rcases retrieveWithin_unchanged reliable memory attempt.1 attempt.2 with same | ⟨_, _, _, trusted, -, -, told⟩
        · exact same
        · exact absurd told (untold attempt (.head rest) trusted)
      rw [retrieveAllWithin, List.foldl_cons, same]
      exact ih fun other mem => untold other (.tail _ mem)

/-- What a store keeps to when it is read, whatever text stands where the record is kept. -/
structure ReadsSafely (memory : Memory) (keys : KeyStore) : Prop where
  /-- A read ends the program exactly if a key that it derives asks for more memory than there is. -/
  ended_iff : ∀ password draw,
    (keys.retrieveWithin memory password draw).2 = none ↔ Exhausts memory keys password draw
  /-- No credential is told of exactly where nothing is stored. -/
  absent_iff : ∀ password draw,
    (keys.retrieveWithin memory password draw).2 = some (.ok none) ↔ keys.storage.get recordKey = .ok none
  /-- Otherwise a text is refused exactly if it cannot be parsed, derived a key for or authenticated. -/
  refused_iff : ∀ password draw,
    (keys.retrieveWithin memory password draw).2 = some (.error .decryptionFailed) ↔
      ¬ Exhausts memory keys password draw ∧
        ∃ raw, keys.storage.get recordKey = .ok (some raw) ∧ ∀ trusted, ¬ Opens raw password trusted
  /-- A credential that is told is the one that the text opens to. -/
  genuine : ∀ password draw trusted, (keys.retrieveWithin memory password draw).2 = some (.ok (some trusted)) →
    ∃ raw, keys.storage.get recordKey = .ok (some raw) ∧ Opens raw password trusted
  /-- A text that opens is told, unless it is deprecated and there is no cost to write it anew at. -/
  told : ∀ password draw raw trusted, keys.storage.get recordKey = .ok (some raw) → Opens raw password trusted →
    ¬ Exhausts memory keys password draw →
    (keys.retrieveWithin memory password draw).2 = some (.ok (some trusted)) ∨
      ∃ nonceText boxText failure, StoredFormat.classify raw = .deprecated nonceText boxText ∧
        WorkFactor.extrapolate draw.elapsed WorkFactor.benchmarkLogN keys.target = .error failure ∧
        (keys.retrieveWithin memory password draw).2 = some (.error failure)
  /-- The store stays as it is to the byte, unless a deprecated record was opened. -/
  unchanged : ∀ password draw, (keys.retrieveWithin memory password draw).1 = keys ∨
    ∃ raw nonceText boxText trusted, keys.storage.get recordKey = .ok (some raw) ∧
      StoredFormat.classify raw = .deprecated nonceText boxText ∧
      (keys.retrieveWithin memory password draw).2 = some (.ok (some trusted))
  /-- So any number of attempts that tell no credential can be made again, those that ended the program too. -/
  again : ∀ attempts : List (String × Draw),
    (∀ attempt ∈ attempts, ∀ trusted,
      (keys.retrieveWithin memory attempt.1 attempt.2).2 ≠ some (.ok (some trusted))) →
      keys.retrieveAllWithin memory attempts = keys

/-- On reliable storage reading is safe for as long as memory suffices, whatever is stored and whatever is drawn. -/
theorem readsSafely_of_reliable (reliable : keys.storage.Reliable) (memory : Memory) : keys.ReadsSafely memory where
  ended_iff _ _ := retrieveWithin_eq_none_iff
  absent_iff password draw := by
    rw [retrieveWithin_eq_some_iff, (retrieved_retrieve reliable password draw).absent_iff]
    refine ⟨And.right, fun nothing => ⟨fun exhausts => ?_, nothing⟩⟩
    obtain ⟨raw, stored⟩ := exhausts.exists_stored
    rw [stored] at nothing
    cases nothing
  refused_iff password draw := by
    rw [retrieveWithin_eq_some_iff, (retrieved_retrieve reliable password draw).refused_iff]
  genuine password draw _ told :=
    (retrieved_retrieve reliable password draw).opens (retrieveWithin_eq_some_iff.mp told).2
  told password draw _ _ stored opens enough := by
    rw [retrieveWithin_of_not_exhausts enough]
    simpa using (retrieved_retrieve reliable password draw).told stored opens
  unchanged := retrieveWithin_unchanged reliable memory
  again _ := retrieveAllWithin_of_untold reliable

/-- A store that holds a text with the form of a deprecated record, and the flag of an unattended session. -/
def damagedKeys : KeyStore :=
  ⟨{ backend := .memory (.ofList [(recordKey, "00:ff"), (autoKey, autoValue)]) }, 10 ^ 9, some "p"⟩

/-- A damaged record is refused under every password, and a whole one opens after any attempt that failed. -/
theorem readsSafely_damagedKeys : damagedKeys.ReadsSafely .addressSpace ∧
    (∀ password draw, damagedKeys.retrieveWithin .addressSpace password draw =
      (damagedKeys, some (.error .decryptionFailed))) ∧
    (deprecatedKeys (10 ^ 9)).ReadsSafely .addressSpace ∧
    Opens deprecatedText "p" (credentialOf (.fit 32 [2]) (.fit 32 [3]) (Text.utf8 "x:y")) := by
  refine ⟨readsSafely_of_reliable (Storage.reliable_memory _) _, fun _ _ => rfl,
    readsSafely_of_reliable (Storage.reliable_memory _) _, ?_⟩
  obtain ⟨nonceText, boxText, format, opened⟩ := exists_openDeprecated (StoredFormat.spells_encode _ _)
  exact (openDeprecated_eq_ok_iff format).mp opened

/-- A record in good order, but for a cost that asks for a table of 2 ^ 60 bytes. -/
def exhaustingRecord : KeyRecord :=
  .ofParts (List.replicate 24 0) (List.replicate 32 0) ⟨50, 8, 1⟩ (List.replicate 17 0)

def exhaustingKeys : KeyStore :=
  ⟨{ backend := .memory (.ofList [(recordKey, exhaustingRecord.render)]) }, 10 ^ 9, none⟩

/-- No key can be derived for the record, but it is not refused: reading it ends the program. -/
theorem retrieveWithin_exhaustingKeys :
    exhaustingKeys.storage.Reliable ∧
      exhaustingKeys.storage.get recordKey = .ok (some exhaustingRecord.render) ∧
      exhaustingKeys.retrieveWithin .addressSpace "p" default = (exhaustingKeys, none) := by
  have stored : exhaustingKeys.storage.get recordKey = .ok (some exhaustingRecord.render) := rfl
  have format := exhaustingRecord.classify_render
  have decoded := DecodedRecord.decode_render (List.replicate 24 0) (List.replicate 32 0) (List.replicate 17 0)
    (by decide : 1 ≤ (⟨50, 8, 1⟩ : WorkFactor).logN.toNat) (by decide)
  refine ⟨Storage.reliable_memory _, stored, Exhausts.retrieveWithin ?_⟩
  exact .current stored (.current format (congrArg Prod.fst decoded)) (by decide)

end KeyStore

end RelayClient
