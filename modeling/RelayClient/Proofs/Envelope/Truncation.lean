import RelayClient.Exchange.Messenger
import RelayClient.Proofs.Envelope.RoundTrip
import RelayClient.Proofs.Pack.Fronts

/-!
# Frames that were cut off

A frame may lose its end on the way. Wherever it was cut, also right behind one of its
entries, what is left runs out of bytes before the message is read: it is refused as no
message at all, never taken for a shorter one, and has no effect.
-/

namespace RelayClient

open Pack (Value)

namespace Message

/-- What becomes of a frame whose end is missing. -/
structure ComesToNothing (frame : Bytes) : Prop where
  /-- Reading ran out of bytes, before a value or inside of one. -/
  lacksBytes : decode frame = .error (.unreadable .noMarker) ∨ decode frame = .error (.unreadable .cutShort)
  malformed : ∃ error, decode frame = .error error ∧ error.kind = "Malformed"
  /-- No request is answered, no handler hears of it, and its state stays as it is. -/
  unheard : ∀ {κ σ : Type} (messenger : Messenger κ) (handle : σ → Message → σ × Outcome) (state : σ),
    messenger.receive handle state frame = (messenger, state)

theorem decode_of_ranOut {frame : Bytes} (short : Pack.RanOut (Value.read Value.depthLimit frame)) :
    decode frame = .error (.unreadable .noMarker) ∨ decode frame = .error (.unreadable .cutShort) := by
  unfold decode Value.decode
  rcases short with none | inside
  · rw [none]
    exact .inl rfl
  · rw [inside]
    exact .inr rfl

/-- A frame that a reader would take as a whole is dropped when any of its last bytes are missing. -/
theorem comesToNothing_of_cut {message : Message} (readable : message.toValue.Readable Value.depthLimit)
    {cut missing : Bytes} (whole : message.encode = cut ++ missing) (lacks : missing ≠ []) : ComesToNothing cut := by
  have refused := decode_of_ranOut (Pack.ranOut_of_cut readable whole lacks)
  obtain ⟨cause, reads⟩ : ∃ cause, decode cut = .error (.unreadable cause) := by
    rcases refused with none | inside
    · exact ⟨_, none⟩
    · exact ⟨_, inside⟩
  constructor
  case lacksBytes => exact refused
  case malformed => exact ⟨_, reads, rfl⟩
  case unheard =>
    intro κ σ messenger handle state
    rw [Messenger.receive, reads]

/-- The last entry of the sample's frame. -/
def sampleEnd : Bytes :=
  (Value.text "data").encode ++ (sample.data.getD .nil).encode

/-- All of the sample's frame but its last entry, which holds the data. -/
def sampleFront : Bytes :=
  sample.encode.take (sample.encode.length - sampleEnd.length)

/-- What is left has all entries that a message must have, and differs from the frame of the message
without data in its first byte only. -/
theorem comesToNothing_sampleFront : sample.toValue.Readable Value.depthLimit ∧
    sample.encode = sampleFront ++ sampleEnd ∧ sampleEnd ≠ [] ∧
      sampleFront.tail = { sample with data := none }.encode.tail ∧ ComesToNothing sampleFront := by
  have readable : sample.toValue.Readable Value.depthLimit := ⟨by decide, by decide⟩
  have whole : sample.encode = sampleFront ++ sampleEnd := by decide +kernel
  have lacks : sampleEnd ≠ [] := by decide +kernel
  exact ⟨readable, whole, lacks, by decide +kernel, comesToNothing_of_cut readable whole lacks⟩

end Message

end RelayClient
