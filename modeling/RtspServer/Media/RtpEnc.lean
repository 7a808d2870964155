import RtspServer.Base.Rtp

/-!
# The RTP context and packet writer

`RTPMuxContext` of RTPEnc.h and the part of `CStreamer::rtpSendData` that
builds a packet. A frame is what a TCP session is sent: the interleaved header
and the packet.
-/

namespace RtspServer

def RTP_PAYLOAD_MAX : Nat := 1400

def RTP_VERSION : UInt8 := 2

def RTP_H264 : UInt8 := 96

structure RTPMuxContext where
  cache : Buffer (RTP_PAYLOAD_MAX + 12 + 4)
  buf : Buffer RTP_PAYLOAD_MAX
  -- `buf_ptr - buf`
  buf_ptr : Nat
  aggregation : Int
  payload_type : Int
  ssrc : UInt32
  seq : UInt32
  timestamp : UInt32

def initRTPMuxContext (ctx : RTPMuxContext) : RTPMuxContext :=
  { ctx with seq := 0, timestamp := 0, ssrc := 0x12345678, aggregation := 0, buf_ptr := 0, payload_type := 1 }

/-- The interleaved header in front of a packet with `len` bytes of payload. -/
def interleavedHeader (len : Nat) : Bytes :=
  [0x24, 0, UInt8.ofNat ((len + 12) / 256), UInt8.ofNat (len + 12)]

/-- The twelve bytes written to `pos`. -/
def rtpHeader (seq timestamp ssrc : UInt32) (mark : Int) : Bytes :=
  [RTP_VERSION <<< 6, (RTP_H264 &&& (0x7f : UInt8)) ||| (UInt8.ofNat (mark % 2).toNat <<< 7)] ++
    Rtp.bytes16 seq.toUInt16 ++ Rtp.bytes32 timestamp ++ Rtp.bytes32 ssrc

/-- The context after sending `buf`, and the frame sent. -/
def rtpSendData (ctx : RTPMuxContext) (buf : Bytes) (mark : Int) : Option (RTPMuxContext × Bytes) := do
  let len := buf.length
  let cache ← ctx.cache.write 0 (interleavedHeader len)
  let cache ← cache.write 4 (rtpHeader ctx.seq ctx.timestamp ctx.ssrc mark)
  let cache ← cache.write (4 + 12) buf
  let frame ← cache.front (len + 12 + 4)
  let cache ← cache.write 0 (List.replicate (RTP_PAYLOAD_MAX + 10) 0)
  return ({ ctx with cache, buf_ptr := 0, seq := (ctx.seq + 1) &&& 0xffff }, frame)

/-! ### What a send does -/

def frame (seq timestamp ssrc : UInt32) (mark : Int) (payload : Bytes) : Bytes :=
  interleavedHeader payload.length ++ rtpHeader seq timestamp ssrc mark ++ payload

theorem interleavedHeader_length (len : Nat) : (interleavedHeader len).length = 4 := rfl

theorem rtpHeader_length (seq timestamp ssrc : UInt32) (mark : Int) :
    (rtpHeader seq timestamp ssrc mark).length = 12 := rfl

theorem rtpSendData_eq (ctx : RTPMuxContext) {payload : Bytes} (mark : Int)
    (fits : payload.length ≤ RTP_PAYLOAD_MAX) :
    ∃ cache, rtpSendData ctx payload mark =
      some ({ ctx with cache, buf_ptr := 0, seq := (ctx.seq + 1) &&& 0xffff },
        frame ctx.seq ctx.timestamp ctx.ssrc mark payload) := by
  unfold RTP_PAYLOAD_MAX at fits
  obtain ⟨c1, write1, -⟩ := ctx.cache.write_ok
    (show 0 + (interleavedHeader payload.length).length ≤ RTP_PAYLOAD_MAX + 12 + 4 by
      rw [interleavedHeader_length]; decide)
  obtain ⟨c2, write2, -⟩ := c1.write_ok
    (show 4 + (rtpHeader ctx.seq ctx.timestamp ctx.ssrc mark).length ≤ RTP_PAYLOAD_MAX + 12 + 4 by
      rw [rtpHeader_length]; decide)
  obtain ⟨c3, write3, -⟩ := c2.write_ok
    (show 4 + 12 + payload.length ≤ RTP_PAYLOAD_MAX + 12 + 4 by unfold RTP_PAYLOAD_MAX; omega)
  obtain ⟨c4, write4, -⟩ := c3.write_ok
    (show 0 + (List.replicate (RTP_PAYLOAD_MAX + 10) (0 : UInt8)).length ≤ RTP_PAYLOAD_MAX + 12 + 4 by
      rw [List.length_replicate]; decide)
  have front : c3.bytes.take (4 + 12 + payload.length) =
      frame ctx.seq ctx.timestamp ctx.ssrc mark payload := by
    have front1 : c1.bytes.take 4 = interleavedHeader payload.length := Buffer.take_write rfl write1
    exact Buffer.take_write (Buffer.take_write front1 write2) write3
  have sent := c3.front_ok
    (show payload.length + 12 + 4 ≤ RTP_PAYLOAD_MAX + 12 + 4 by unfold RTP_PAYLOAD_MAX; omega)
  have length : payload.length + 12 + 4 = 4 + 12 + payload.length := by omega
  rw [length, front] at sent
  refine ⟨c4, ?_⟩
  unfold rtpSendData
  simp only [length, write1, write2, write3, write4, sent, Option.bind_eq_bind, Option.bind_some, Option.pure_def]

/-- The packet that a receiver reads of a frame. -/
def packetOf (seq timestamp ssrc : UInt32) (mark : Int) (payload : Bytes) : Rtp.Packet where
  marker := mark % 2 = 1
  payloadType := RTP_H264
  seq := seq.toUInt16
  timestamp := timestamp
  ssrc := ssrc
  payload := payload

/-- Of `mark` only the low bit goes into the header, in front of the payload type. -/
theorem mark_byte (mark : Int) :
    let b := (RTP_H264 &&& (0x7f : UInt8)) ||| (UInt8.ofNat (mark % 2).toNat <<< 7)
    (0x80 ≤ b ↔ mark % 2 = 1) ∧ b &&& 0x7f = RTP_H264 := by
  rcases Int.emod_two_eq mark with even | odd
  · rw [even]
    decide
  · rw [odd]
    decide

theorem parse_frame (seq timestamp ssrc : UInt32) (mark : Int) (payload : Bytes) :
    Rtp.parse ((frame seq timestamp ssrc mark payload).drop 4) = some (packetOf seq timestamp ssrc mark payload) := by
  obtain ⟨marker, type⟩ := mark_byte mark
  have parsed := Rtp.parse_fixed ((RTP_H264 &&& (0x7f : UInt8)) ||| (UInt8.ofNat (mark % 2).toNat <<< 7)) seq.toUInt16
    timestamp ssrc payload
  rw [type, decide_eq_decide.mpr marker] at parsed
  exact parsed

/-! ### Runs of sends -/

def nextSeq (seq : UInt32) : UInt32 := (seq + 1) &&& 0xffff

def frames (timestamp ssrc : UInt32) : UInt32 → List Bytes → List Bytes
  | _, [] => []
  | seq, p :: ps => frame seq timestamp ssrc 0 p :: frames timestamp ssrc (nextSeq seq) ps

theorem frames_length (timestamp ssrc seq : UInt32) (ps : List Bytes) : (frames timestamp ssrc seq ps).length = ps.length := by
  induction ps generalizing seq with
  | nil => rfl
  | cons p ps ih => rw [frames, List.length_cons, ih, List.length_cons]

theorem frames_append (timestamp ssrc seq : UInt32) (ps qs : List Bytes) :
    frames timestamp ssrc seq (ps ++ qs) =
      frames timestamp ssrc seq ps ++ frames timestamp ssrc (nextSeq^[ps.length] seq) qs := by
  induction ps generalizing seq with
  | nil => rfl
  | cons p ps ih => rw [List.cons_append, frames, ih, frames]; rfl

/-- `ctx'` is `ctx` after `payloads` went out as the frames `fs`. -/
structure Sent (ctx ctx' : RTPMuxContext) (payloads fs : List Bytes) : Prop where
  frames : fs = frames ctx.timestamp ctx.ssrc ctx.seq payloads
  seq : ctx'.seq = nextSeq^[payloads.length] ctx.seq
  timestamp : ctx'.timestamp = ctx.timestamp
  ssrc : ctx'.ssrc = ctx.ssrc
  aggregation : ctx'.aggregation = ctx.aggregation

theorem Sent.refl (ctx : RTPMuxContext) : Sent ctx ctx [] [] := ⟨rfl, rfl, rfl, rfl, rfl⟩

theorem Sent.append {a b c : RTPMuxContext} {ps qs fs gs : List Bytes}
    (first : Sent a b ps fs) (second : Sent b c qs gs) : Sent a c (ps ++ qs) (fs ++ gs) where
  frames := by rw [frames_append, first.frames, second.frames, first.timestamp, first.ssrc, first.seq]
  seq := by
    rw [second.seq, first.seq, ← Function.iterate_add_apply, List.length_append, Nat.add_comm]
  timestamp := second.timestamp.trans first.timestamp
  ssrc := second.ssrc.trans first.ssrc
  aggregation := second.aggregation.trans first.aggregation

theorem rtpSendData_sent (ctx : RTPMuxContext) {payload : Bytes} (fits : payload.length ≤ RTP_PAYLOAD_MAX) :
    ∃ ctx' f, rtpSendData ctx payload 0 = some (ctx', f) ∧ Sent ctx ctx' [payload] [f] ∧
      ctx'.buf = ctx.buf ∧ ctx'.buf_ptr = 0 := by
  obtain ⟨cache, send⟩ := rtpSendData_eq ctx 0 fits
  exact ⟨_, _, send, ⟨rfl, rfl, rfl, rfl, rfl⟩, rfl, rfl⟩

/-! ### What a receiver sees -/

def packetsOf (fs : List Bytes) : Option (List Rtp.Packet) := fs.mapM fun f => Rtp.parse (f.drop 4)

theorem packetsOf_append {fs gs : List Bytes} {ps qs : List Rtp.Packet}
    (first : packetsOf fs = some ps) (second : packetsOf gs = some qs) :
    packetsOf (fs ++ gs) = some (ps ++ qs) := by
  unfold packetsOf at *
  rw [List.mapM_append, first, second]
  rfl

theorem nextSeq_toNat (seq : UInt32) : (nextSeq seq).toNat = (seq.toNat + 1) % 65536 := by
  have bound := seq.toNat_lt
  unfold nextSeq
  rw [UInt32.toNat_and, UInt32.toNat_add]
  have mask : ((0xffff : UInt32)).toNat = 2 ^ 16 - 1 := rfl
  have one : ((1 : UInt32)).toNat = 1 := rfl
  rw [mask, Nat.and_two_pow_sub_one_eq_mod, one]
  omega

theorem nextSeq_iterate (seq : UInt32) (n s : Nat) (start : seq.toNat = s % 65536) :
    (nextSeq^[n] seq).toNat = (s + n) % 65536 := by
  induction n with
  | zero => exact start
  | succ n ih =>
    rw [Function.iterate_succ_apply', nextSeq_toNat, ih]
    omega

/-- The frames of a run parse to its payloads, numbered consecutively modulo 2^16. -/
theorem packetsOf_frames (timestamp ssrc : UInt32) {seq : UInt32} {s : Nat} (payloads : List Bytes)
    (start : seq.toNat % 65536 = s % 65536) :
    ∃ packets, packetsOf (frames timestamp ssrc seq payloads) = some packets ∧
      packets.map Rtp.Packet.payload = payloads ∧
      packets.map (fun p => p.seq.toNat) = (List.range' s payloads.length).map (· % 65536) := by
  induction payloads generalizing seq s with
  | nil => exact ⟨[], rfl, rfl, rfl⟩
  | cons p ps ih =>
    have next : (nextSeq seq).toNat % 65536 = (s + 1) % 65536 := by rw [nextSeq_toNat]; omega
    obtain ⟨packets, parse, payloads, numbers⟩ := ih next
    have parsed := parse_frame seq timestamp ssrc 0 p
    refine ⟨packetOf seq timestamp ssrc 0 p :: packets, ?_, by rw [List.map_cons, payloads]; rfl, ?_⟩
    · unfold packetsOf at parse ⊢
      rw [frames, List.mapM_cons, parsed, parse]
      rfl
    · have first : (packetOf seq timestamp ssrc 0 p).seq.toNat = s % 65536 := by
        rw [packetOf, UInt32.toNat_toUInt16]
        exact start
      rw [List.map_cons, numbers, first, List.length_cons, List.range'_succ, List.map_cons]

theorem Sent.packets {ctx ctx' : RTPMuxContext} {payloads fs : List Bytes} {s : Nat}
    (sent : Sent ctx ctx' payloads fs) (start : ctx.seq.toNat = s % 65536) :
    ∃ packets, packetsOf fs = some packets ∧ packets.map Rtp.Packet.payload = payloads ∧
      packets.map (fun p => p.seq.toNat) = (List.range' s packets.length).map (· % 65536) ∧
      ctx'.seq.toNat = (s + packets.length) % 65536 := by
  obtain ⟨packets, parsed, same, numbers⟩ :=
    packetsOf_frames ctx.timestamp ctx.ssrc payloads (show ctx.seq.toNat % 65536 = s % 65536 by omega)
  have length : packets.length = payloads.length := by rw [← same, List.length_map]
  refine ⟨packets, by rw [sent.frames]; exact parsed, same, by rw [length]; exact numbers, ?_⟩
  rw [sent.seq, length]
  exact nextSeq_iterate _ _ _ start

end RtspServer
