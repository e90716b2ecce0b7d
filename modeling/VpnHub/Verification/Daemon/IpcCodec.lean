import VpnHub.Library.Framing
import VpnHub.Program.Daemon.IpcCodec

/-! The codec reads what it writes, however the stream is cut, and touches neither buffer when a
message is too large. -/

namespace VpnHub.Ipc.JsonLengthDelimitedCodec

open BigEndian Framing

variable {Message : Type*} {serde : SerdeJson Message Message} {codec : JsonLengthDelimitedCodec}

/-- The JSON of the message fits into a frame. -/
def Fits (serde : SerdeJson Message Message) (codec : JsonLengthDelimitedCodec)
    (item : Message) : Prop :=
  ∃ bytes, serde.toVec item = .ok bytes ∧ bytes.length ≤ codec.maxFrameSize

/-- What is written for a message. -/
def encoding (serde : SerdeJson Message Message) (codec : JsonLengthDelimitedCodec)
    (item : Message) : Bytes := (encode serde codec item []).2

theorem lt_of_fits (hmax : codec.maxFrameSize < 2 ^ 32) {bytes : Bytes}
    (hfits : bytes.length ≤ codec.maxFrameSize) : bytes.length < 256 ^ 4 :=
  hfits.trans_lt (hmax.trans_le (by decide))

theorem encode_of_fits (hmax : codec.maxFrameSize < 2 ^ 32) {item : Message} {bytes : Bytes}
    (hbytes : serde.toVec item = .ok bytes) (hfits : bytes.length ≤ codec.maxFrameSize)
    (dst : Bytes) : encode serde codec item dst = (.ok (), dst ++ frame 4 bytes) := by
  have hle : ¬ bytes.length > codec.maxFrameSize := Nat.not_lt.mpr hfits
  have hcast : (UInt32.ofNat bytes.length).toNat = bytes.length := by
    rw [UInt32.toNat_ofNat', Nat.mod_eq_of_lt (hfits.trans_lt hmax)]
  simp only [encode, hbytes, if_neg hle, hcast, frame, List.append_assoc]

theorem encoding_of_fits (hmax : codec.maxFrameSize < 2 ^ 32) {item : Message} {bytes : Bytes}
    (hbytes : serde.toVec item = .ok bytes) (hfits : bytes.length ≤ codec.maxFrameSize) :
    encoding serde codec item = frame 4 bytes := by
  rw [encoding, encode_of_fits hmax hbytes hfits, List.nil_append]

theorem encode_all (hmax : codec.maxFrameSize < 2 ^ 32) {items : List Message}
    (h : ∀ item ∈ items, Fits serde codec item) (dst : Bytes) :
    items.foldl (fun dst item => (encode serde codec item dst).2) dst =
      dst ++ items.flatMap (encoding serde codec) := by
  apply foldl_write
  intro item hin dst
  obtain ⟨bytes, hbytes, hfits⟩ := h item hin
  rw [encode_of_fits hmax hbytes hfits, encoding_of_fits hmax hbytes hfits]

/-- The decoder takes a frame off a buffer that holds all of it and leaves a part of one. -/
theorem decode_inverts (hmax : codec.maxFrameSize < 2 ^ 32)
    (hserde : ∀ item bytes, serde.toVec item = .ok bytes → serde.fromSlice bytes = .ok item) :
    Inverts (decode serde codec) (encoding serde codec) (Fits serde codec) where
  whole := by
    rintro item ⟨bytes, hbytes, hfits⟩ rest
    have hlength := ofBE_take_frame (lt_of_fits hmax hfits) rest
    have hheader : ¬ (frame 4 bytes ++ rest).length < 4 := by
      rw [List.length_append, length_frame]
      omega
    have hbody : ¬ (frame 4 bytes ++ rest).length < 4 + bytes.length := by
      rw [List.length_append, length_frame]
      omega
    have hrest : (bytes ++ rest).drop bytes.length = rest := List.drop_left
    have htake : (bytes ++ rest).take bytes.length = bytes := List.take_left
    rw [encoding_of_fits hmax hbytes hfits]
    simp only [decode, if_neg hheader, hlength, gt_iff_lt, if_neg (Nat.not_lt.mpr hfits),
      if_neg hbody, drop_frame_append, htake, hrest, hserde item bytes hbytes]
  part := by
    rintro item ⟨bytes, hbytes, hfits⟩ part hpre hne
    rw [encoding_of_fits hmax hbytes hfits] at hpre hne
    by_cases hheader : part.length < 4
    · simp only [decode, if_pos hheader]
    · have hlength :=
        ofBE_take_of_prefix (lt_of_fits hmax hfits) hpre (Nat.le_of_not_lt hheader)
      have hshort := length_lt_of_part hpre hne
      simp only [decode, if_neg hheader, hlength, gt_iff_lt, if_neg (Nat.not_lt.mpr hfits),
        if_pos hshort]
  empty := rfl

/-- Messages that fit are delivered exactly as they were written, in any pieces and with any
calls of the decoder in between; an unfinished message stays in the buffer. A header that
announces too much is refused and stays, and of a message that is too large nothing is
written. -/
theorem codec_lossless (serde : SerdeJson Message Message)
    (hserde : ∀ item bytes, serde.toVec item = .ok bytes → serde.fromSlice bytes = .ok item)
    (codec : JsonLengthDelimitedCodec) (hmax : codec.maxFrameSize < 2 ^ 32)
    (items : List Message) (hitems : ∀ item ∈ items, Fits serde codec item) (tail : Bytes)
    (htail : Unfinished (encoding serde codec) (Fits serde codec) tail) :
    (∀ item ∈ items, ∀ dst, (encode serde codec item dst).1 = .ok ()) ∧
      (∀ events n,
        arrived events =
          items.foldl (fun dst item => (encode serde codec item dst).2) [] ++ tail →
        items.length ≤ n →
        let outcome := run (decode serde codec) [] (events ++ List.replicate n .call)
        Succeeds outcome.1 ∧ messages outcome.1 = items ∧ outcome.2 = tail) ∧
      (∀ part, Unfinished (encoding serde codec) (Fits serde codec) part →
        decode serde codec part = (.ok none, part)) ∧
      (∀ buffer : Bytes, 4 ≤ buffer.length → codec.maxFrameSize < ofBE (buffer.take 4) →
        decode serde codec buffer =
          (.error (.frameTooLarge (ofBE (buffer.take 4)) codec.maxFrameSize), buffer)) ∧
      ∀ item bytes, serde.toVec item = .ok bytes → codec.maxFrameSize < bytes.length →
        ∀ dst, encode serde codec item dst =
          (.error (.frameTooLarge bytes.length codec.maxFrameSize), dst) := by
  have hinverts := decode_inverts hmax hserde
  refine ⟨?_, ?_, ?_, ?_, ?_⟩
  · intro item hin dst
    obtain ⟨bytes, hbytes, hfits⟩ := hitems item hin
    rw [encode_of_fits hmax hbytes hfits]
  · intro events n heq hn
    rw [encode_all hmax hitems, List.nil_append] at heq
    exact hinverts.run_stream hitems htail heq hn
  · intro part hpart
    exact hinverts.unfinished hpart
  · intro buffer hheader hlarge
    have hlong : ¬ buffer.length < 4 := Nat.not_lt.mpr hheader
    simp only [decode, if_neg hlong, gt_iff_lt, if_pos hlarge]
  · intro item bytes hbytes hlarge dst
    simp only [encode, hbytes, gt_iff_lt, if_pos hlarge]

/-- The JSON of truth values. -/
def boolJson : SerdeJson Bool Bool where
  fromSlice bytes :=
    if bytes = [116, 114, 117, 101] then .ok true
    else if bytes = [102, 97, 108, 115, 101] then .ok false
    else .error "expected a boolean".toList
  toVec item := .ok (if item then [116, 114, 117, 101] else [102, 97, 108, 115, 101])

/-- Two messages in three pieces, the first cut in its header. -/
theorem codec_lossless_bool :
    let outcome := run (decode boolJson ⟨5⟩) []
      ([.arrive [0, 0], .call, .arrive [0, 4, 116, 114, 117, 101, 0, 0, 0], .call,
        .arrive [5, 102, 97, 108, 115, 101, 0]] ++ List.replicate 2 .call)
    Succeeds outcome.1 ∧ messages outcome.1 = [true, false] ∧ outcome.2 = [0] := by
  have hserde : ∀ item bytes, boolJson.toVec item = .ok bytes →
      boolJson.fromSlice bytes = .ok item := by
    intro item bytes h
    cases item <;> cases h <;> rfl
  have hfits : ∀ item : Bool, Fits boolJson ⟨5⟩ item := by
    intro item
    cases item
    · exact ⟨_, rfl, by decide⟩
    · exact ⟨_, rfl, by decide⟩
  have htail : Unfinished (encoding boolJson ⟨5⟩) (Fits boolJson ⟨5⟩) [0] :=
    .inr ⟨true, hfits true, by decide, by decide⟩
  obtain ⟨-, hrun, -⟩ := codec_lossless boolJson hserde ⟨5⟩ (by decide) [true, false]
    (fun item _ => hfits item) [0] htail
  exact hrun _ 2 (by decide) le_rfl

end VpnHub.Ipc.JsonLengthDelimitedCodec
