import VpnHub.Library.Framing
import VpnHub.Program.Transport

/-! Packets over TCP: what is written is read again, however the stream is cut into reads. -/

namespace VpnHub.Transport

open BigEndian Framing

/-- The packets that the length field has room for. -/
def Fits (packet : Bytes) : Prop := packet.length ≤ 65535

theorem Fits.lt {packet : Bytes} (h : Fits packet) : packet.length < 256 ^ 2 :=
  Nat.lt_succ_of_le h

/-! ## Writing -/

theorem toBE_length {packet : Bytes} (h : Fits packet) :
    toBE 2 (UInt16.ofNat packet.length).toNat = toBE 2 packet.length := by
  have hlt : packet.length < 2 ^ 16 := h.lt
  rw [UInt16.toNat_ofNat', Nat.mod_eq_of_lt hlt]

theorem encode_of_fits {packet : Bytes} (h : Fits packet) (dst : Bytes) :
    OpenVpnTcpCodec.encode packet dst = (.ok (), dst ++ frame 2 packet) := by
  have hle : ¬ packet.length > 65535 := Nat.not_lt.mpr h
  simp only [OpenVpnTcpCodec.encode, if_neg hle, toBE_length h, frame, List.append_assoc]

theorem sendPacket_of_fits {packet : Bytes} (h : Fits packet) (written : Bytes) :
    TcpTransport.sendPacket packet written = (.ok (), written ++ frame 2 packet) := by
  have hle : ¬ packet.length > 65535 := Nat.not_lt.mpr h
  simp only [TcpTransport.sendPacket, if_neg hle, toBE_length h, frame, List.append_assoc]

/-- A packet that is too long is refused and nothing is written. -/
theorem encode_of_long {packet : Bytes} (h : 65535 < packet.length) (dst : Bytes) :
    OpenVpnTcpCodec.encode packet dst =
      (.error (.framing ("Packet length ".toList ++ Text.ofNat packet.length ++
        " exceeds u16::MAX for OpenVPN TCP framing".toList)), dst) := by
  have hgt : packet.length > 65535 := h
  simp only [OpenVpnTcpCodec.encode, if_pos hgt]

theorem sendPacket_of_long {packet : Bytes} (h : 65535 < packet.length) (written : Bytes) :
    TcpTransport.sendPacket packet written =
      (.error (.framing ("Packet length ".toList ++ Text.ofNat packet.length ++
        " exceeds u16::MAX".toList)), written) := by
  have hgt : packet.length > 65535 := h
  simp only [TcpTransport.sendPacket, if_pos hgt]

/-- Both writers write the frames of the packets one after the other. -/
theorem encode_all {packets : List Bytes} (h : ∀ packet ∈ packets, Fits packet) (dst : Bytes) :
    packets.foldl (fun dst packet => (OpenVpnTcpCodec.encode packet dst).2) dst =
      dst ++ packets.flatMap (frame 2) := by
  apply foldl_write
  intro packet hin dst
  rw [encode_of_fits (h packet hin)]

theorem sendPacket_all {packets : List Bytes} (h : ∀ packet ∈ packets, Fits packet)
    (written : Bytes) :
    packets.foldl (fun written packet => (TcpTransport.sendPacket packet written).2) written =
      written ++ packets.flatMap (frame 2) := by
  apply foldl_write
  intro packet hin written
  rw [sendPacket_of_fits (h packet hin)]

/-! ## The codec -/

/-- The decoder takes a frame off a buffer that holds all of it and leaves a part of one. -/
theorem decode_inverts : Inverts OpenVpnTcpCodec.decode (frame 2) Fits where
  whole := by
    intro packet h rest
    have hlength := ofBE_take_frame h.lt rest
    have hheader : ¬ (frame 2 packet ++ rest).length < 2 := by
      rw [List.length_append, length_frame]
      omega
    have hbody : ¬ (frame 2 packet ++ rest).length < 2 + packet.length := by
      rw [List.length_append, length_frame]
      omega
    have hrest : (packet ++ rest).drop packet.length = rest := List.drop_left
    have hpacket : (packet ++ rest).take packet.length = packet := List.take_left
    simp only [OpenVpnTcpCodec.decode, if_neg hheader, hlength, if_neg hbody, drop_frame_append,
      hpacket, hrest]
  part := by
    intro packet h bytes hpre hne
    by_cases hheader : bytes.length < 2
    · simp only [OpenVpnTcpCodec.decode, if_pos hheader]
    · have hlength := ofBE_take_of_prefix h.lt hpre (Nat.le_of_not_lt hheader)
      have hshort := length_lt_of_part hpre hne
      simp only [OpenVpnTcpCodec.decode, if_neg hheader, hlength, if_pos hshort]
  empty := rfl

/-! ## The transport -/

namespace TcpTransport

/-- The bytes that the reads bring. -/
def bytesOf : List Read → Bytes
  | [] => []
  | .ready bytes :: reads => bytes ++ bytesOf reads
  | .failed _ :: reads => bytesOf reads
  | .dropped :: reads => bytesOf reads

/-- A read on a connection that is up: some bytes, or the future is dropped while it waits. -/
def Up (read : Read) : Prop := read = .dropped ∨ ∃ bytes, bytes ≠ [] ∧ read = .ready bytes

/-- The packets among the answers. -/
def packetsOf (answers : List Received) : List Bytes :=
  answers.filterMap fun
    | .packet bytes => some bytes
    | _ => none

/-- The transport finds a frame in its buffer when the codec does. -/
theorem recvPacket_of_some {size : ℕ} {buffer packet rest : Bytes} (reads : List Read)
    (h : OpenVpnTcpCodec.decode buffer = (.ok (some packet), rest)) (hsize : packet.length ≤ size) :
    recvPacket size buffer reads = (.packet packet, rest, reads) := by
  simp only [OpenVpnTcpCodec.decode] at h
  split at h
  · cases h
  · split at h
    · cases h
    · rename_i hheader hbody
      obtain ⟨hpacket, hrest⟩ := Prod.mk.inj h
      cases hpacket
      have hcond : 2 ≤ buffer.length ∧ 2 + ofBE (buffer.take 2) ≤ buffer.length := by omega
      have hlen : ((buffer.drop 2).take (ofBE (buffer.take 2))).length =
          ofBE (buffer.take 2) := by
        apply List.length_take_of_le
        rw [List.length_drop]
        omega
      have hcopy : min (ofBE (buffer.take 2)) size = ofBE (buffer.take 2) := by omega
      rw [recvPacket.eq_def, if_pos hcond]
      simp only [hcopy, List.take_take, min_self, hrest]

theorem not_buffered {buffer : Bytes}
    (h : OpenVpnTcpCodec.decode buffer = (.ok none, buffer)) :
    ¬ (2 ≤ buffer.length ∧ 2 + ofBE (buffer.take 2) ≤ buffer.length) := by
  rintro ⟨hheader, hbody⟩
  rw [OpenVpnTcpCodec.decode, if_neg (by omega)] at h
  simp only [if_neg (Nat.not_lt.mpr hbody)] at h
  cases h

/-- What one `recv_packet` can come to in the middle of a stream: the next packet, a future that
is dropped before the packet is there, or the wait for more when all is read. -/
inductive Answers (packets : List Bytes) (tail : Bytes) (reads : List Read) :
    Received × Bytes × List Read → Prop where
  | packet {packet packets' buffer reads'} (hnext : packets = packet :: packets')
      (hreads : reads' <:+ reads)
      (hleft : buffer ++ bytesOf reads' = packets'.flatMap (frame 2) ++ tail) :
      Answers packets tail reads (.packet packet, buffer, reads')
  | dropped {buffer reads'} (hreads : reads' <:+ reads) (hlt : reads'.length < reads.length)
      (hleft : buffer ++ bytesOf reads' = packets.flatMap (frame 2) ++ tail) :
      Answers packets tail reads (.dropped, buffer, reads')
  | pending (hdone : packets = []) : Answers packets tail reads (.pending, tail, [])

theorem Answers.cons {packets : List Bytes} {tail : Bytes} {reads : List Read}
    {outcome : Received × Bytes × List Read} (h : Answers packets tail reads outcome)
    (read : Read) : Answers packets tail (read :: reads) outcome := by
  have hsuffix := List.suffix_cons read reads
  cases h with
  | packet hnext hreads hleft => exact .packet hnext (hreads.trans hsuffix) hleft
  | dropped hreads hlt hleft =>
      exact .dropped (hreads.trans hsuffix) (Nat.lt_succ_of_lt hlt) hleft
  | pending hdone => exact .pending hdone

section Stream

variable {packets : List Bytes} {tail buffer : Bytes} {size : ℕ} {reads : List Read}

theorem recvPacket_answers (hpackets : ∀ packet ∈ packets, Fits packet)
    (ht : Unfinished (frame 2) Fits tail) (hsize : 65535 ≤ size) (hup : ∀ read ∈ reads, Up read)
    (heq : buffer ++ bytesOf reads = packets.flatMap (frame 2) ++ tail) :
    Answers packets tail reads (recvPacket size buffer reads) := by
  induction reads generalizing buffer with
  | nil =>
      obtain ⟨hnone, hend⟩ | ⟨packet, packets', rest, rfl, hsome, hrest⟩ :=
        decode_inverts.decode_cases hpackets ht heq
      · obtain ⟨rfl, rfl⟩ := hend rfl
        rw [recvPacket.eq_def, if_neg (not_buffered hnone)]
        exact .pending rfl
      · have hfits := (hpackets packet List.mem_cons_self).trans hsize
        rw [recvPacket_of_some [] hsome hfits]
        exact .packet rfl List.suffix_rfl hrest
  | cons read reads ih =>
      obtain ⟨hnone, -⟩ | ⟨packet, packets', rest, rfl, hsome, hrest⟩ :=
        decode_inverts.decode_cases hpackets ht heq
      · obtain ⟨hread, hup'⟩ := List.forall_mem_cons.mp hup
        rw [recvPacket.eq_def, if_neg (not_buffered hnone)]
        obtain rfl | ⟨bytes, hbytes, rfl⟩ := hread
        · exact .dropped (List.suffix_cons _ _) (Nat.lt_succ_self _) heq
        · have hn : bytes.length ≠ 0 := fun h => hbytes (List.eq_nil_of_length_eq_zero h)
          rw [bytesOf, ← List.append_assoc] at heq
          simp only [if_neg hn]
          exact (ih hup' heq).cons _
      · have hfits := (hpackets packet List.mem_cons_self).trans hsize
        rw [recvPacket_of_some _ hsome hfits]
        exact .packet rfl List.suffix_rfl hrest

/-- Enough calls of `recv_packet` deliver the packets of a stream in order and keep what is
unfinished, and none of them fails. -/
theorem recvPackets_eq (hpackets : ∀ packet ∈ packets, Fits packet)
    (ht : Unfinished (frame 2) Fits tail) (hsize : 65535 ≤ size) (hup : ∀ read ∈ reads, Up read)
    (heq : buffer ++ bytesOf reads = packets.flatMap (frame 2) ++ tail) {n : ℕ}
    (hn : packets.length + reads.length ≤ n) :
    (∀ answer ∈ (recvPackets size n buffer reads).1, ∀ e, answer ≠ .error e) ∧
      packetsOf (recvPackets size n buffer reads).1 = packets ∧
      (recvPackets size n buffer reads).2 = (tail, []) := by
  induction n generalizing packets buffer reads with
  | zero =>
      have hpnil : packets = [] := List.eq_nil_of_length_eq_zero (by omega)
      have hrnil : reads = [] := List.eq_nil_of_length_eq_zero (by omega)
      subst hpnil hrnil
      have hbuffer : buffer = tail := by simpa [bytesOf] using heq
      exact ⟨fun _ hin => absurd hin List.not_mem_nil, rfl, by rw [hbuffer, recvPackets]⟩
  | succ n ih =>
      have hfirst := recvPacket_answers hpackets ht hsize hup heq
      rw [recvPackets]
      generalize recvPacket size buffer reads = first at hfirst
      cases hfirst with
      | packet hnext hreads hleft =>
          subst hnext
          have hlen := hreads.length_le
          rw [List.length_cons] at hn
          obtain ⟨herror, hlater, hrest⟩ := ih (List.forall_mem_cons.mp hpackets).2
            (fun r hr => hup r (hreads.subset hr)) hleft (by omega)
          exact ⟨List.forall_mem_cons.mpr ⟨fun e => nofun, herror⟩, congrArg _ hlater, hrest⟩
      | dropped hreads hlt hleft =>
          obtain ⟨herror, hlater, hrest⟩ := ih hpackets
            (fun r hr => hup r (hreads.subset hr)) hleft (by omega)
          exact ⟨List.forall_mem_cons.mpr ⟨fun e => nofun, herror⟩, hlater, hrest⟩
      | pending hdone =>
          subst hdone
          have hnone : ∀ read ∈ ([] : List Read), Up read := fun _ hr =>
            absurd hr List.not_mem_nil
          obtain ⟨herror, hlater, hrest⟩ :=
            ih hpackets hnone (List.append_nil tail) (Nat.zero_le n)
          exact ⟨List.forall_mem_cons.mpr ⟨fun e => nofun, herror⟩, hlater, hrest⟩

end Stream

end TcpTransport

open TcpTransport in
/-- Packets of at most 65535 bytes are written as the same stream by both writers. The codec
and the transport deliver exactly these packets of the stream however it is cut into pieces,
and what is unfinished stays in the buffer. Longer packets are refused and leave the stream
as it is. -/
theorem framing_lossless (packets : List Bytes) (hpackets : ∀ packet ∈ packets, Fits packet)
    (tail : Bytes) (htail : Unfinished (frame 2) Fits tail) :
    let stream := packets.foldl (fun dst packet => (OpenVpnTcpCodec.encode packet dst).2) []
    stream = packets.foldl (fun written packet => (sendPacket packet written).2) [] ∧
      (∀ packet ∈ packets, ∀ dst, (OpenVpnTcpCodec.encode packet dst).1 = .ok () ∧
        (sendPacket packet dst).1 = .ok ()) ∧
      (∀ events n, arrived events = stream ++ tail → packets.length ≤ n →
        let outcome := run OpenVpnTcpCodec.decode [] (events ++ List.replicate n .call)
        Succeeds outcome.1 ∧ messages outcome.1 = packets ∧ outcome.2 = tail) ∧
      (∀ size reads n, 65535 ≤ size → (∀ read ∈ reads, Up read) →
        bytesOf reads = stream ++ tail → packets.length + reads.length ≤ n →
        let outcome := recvPackets size n [] reads
        (∀ answer ∈ outcome.1, ∀ e, answer ≠ .error e) ∧ packetsOf outcome.1 = packets ∧
          outcome.2 = (tail, [])) ∧
      ∀ packet : Bytes, 65535 < packet.length → ∀ dst,
        (OpenVpnTcpCodec.encode packet dst).1 ≠ .ok () ∧
        (OpenVpnTcpCodec.encode packet dst).2 = dst ∧
        (sendPacket packet dst).1 ≠ .ok () ∧ (sendPacket packet dst).2 = dst := by
  intro stream
  have hstream : stream = packets.flatMap (frame 2) := encode_all hpackets []
  refine ⟨?_, ?_, ?_, ?_, ?_⟩
  · rw [hstream]
    exact (sendPacket_all hpackets []).symm
  · intro packet hin dst
    rw [encode_of_fits (hpackets packet hin), sendPacket_of_fits (hpackets packet hin)]
    exact ⟨rfl, rfl⟩
  · intro events n heq hn
    rw [hstream] at heq
    exact decode_inverts.run_stream hpackets htail heq hn
  · intro size reads n hsize hup heq hn
    rw [hstream] at heq
    exact recvPackets_eq hpackets htail hsize hup heq hn
  · intro packet hlong dst
    rw [encode_of_long hlong, sendPacket_of_long hlong]
    exact ⟨nofun, rfl, nofun, rfl⟩

/-- A packet of one byte and an empty one, with a header cut in two, a future dropped in between
and the first byte of a third packet. -/
theorem framing_lossless_dropped :
    let outcome := TcpTransport.recvPackets 65535 6 []
      [.ready [0], .dropped, .ready [1, 9, 0], .ready [0, 0]]
    TcpTransport.packetsOf outcome.1 = [[9], []] ∧ outcome.2 = ([0], []) := by
  have hfits : ∀ packet ∈ [[9], []], Fits packet := by
    intro packet hin
    obtain rfl | rfl := List.mem_pair.mp hin
    · exact (by decide : 1 ≤ 65535)
    · exact Nat.zero_le _
  have htail : Unfinished (frame 2) Fits [0] :=
    .inr ⟨[], Nat.zero_le _, by decide, by decide⟩
  have hup : ∀ read ∈ [.ready [0], .dropped, .ready [1, 9, 0], .ready [0, 0]],
      TcpTransport.Up read := by
    intro read hin
    simp only [List.mem_cons, List.not_mem_nil, or_false] at hin
    obtain rfl | rfl | rfl | rfl := hin
    · exact .inr ⟨_, by decide, rfl⟩
    · exact .inl rfl
    · exact .inr ⟨_, by decide, rfl⟩
    · exact .inr ⟨_, by decide, rfl⟩
  obtain ⟨-, -, -, htransport, -⟩ := framing_lossless [[9], []] hfits [0] htail
  exact (htransport 65535 _ 6 le_rfl hup (by decide) (by decide)).2

end VpnHub.Transport
