import RtspServer.Base.Framing
import RtspServer.Media.FanOut

/-!
# The stream of a TCP session

The frames that calls of `rtpSendData` hand to a session with TCP transport, read
back by a receiver that splits the stream by the interleaved headers.
-/

namespace RtspServer

/-- A call of `rtpSendData`, and the time and source that its context has then. -/
structure DataCall where
  timestamp : UInt32
  ssrc : UInt32
  payload : Bytes
  mark : Int

/-- The context after the calls, and the frames sent. -/
def sendData : List DataCall → RTPMuxContext → Option (RTPMuxContext × List Bytes)
  | [], ctx => some (ctx, [])
  | c :: cs, ctx => do
    let (ctx, f) ← rtpSendData { ctx with timestamp := c.timestamp, ssrc := c.ssrc } c.payload c.mark
    let (ctx, fs) ← sendData cs ctx
    return (ctx, f :: fs)

/-- The bytes given to the TCP socket. -/
def Delivery.socketBytes : Delivery → Bytes
  | tcp bytes => bytes
  | udp .. => []

/-- All that session `i` is handed over TCP when the frames go out. -/
def Server.tcpStream (sv : Server) (i : Nat) (fs : List Bytes) : Bytes :=
  fs.flatMap fun f => ((sv.fanOut f).filter fun d => d.1 = i).flatMap fun d => d.2.socketBytes

/-- The packets in a stream of frames on channel 0. -/
def readStream (stream : Bytes) : Option (List Rtp.Packet) :=
  (Framing.split (Rtp.readInterleaved 0) stream).bind fun packets => packets.mapM Rtp.parse

/-- The packet of a call that finds the sequence number `n` in its context. -/
def DataCall.packet (c : DataCall) (n : Nat) : Rtp.Packet where
  marker := c.mark % 2 = 1
  payloadType := 96
  seq := UInt16.ofNat n
  timestamp := c.timestamp
  ssrc := c.ssrc
  payload := c.payload

theorem tcpStream_frames {sv : Server} {i : Nat} (member : i ∈ sv.m_Clients) (streams : (sv.session i).m_streaming = true)
    (tcp : (sv.session i).m_TcpTransport = true) (fs : List Bytes) : sv.tcpStream i fs = fs.flatten := by
  have one (f : Bytes) : ((sv.fanOut f).filter fun d => d.1 = i).flatMap (fun d => d.2.socketBytes) = f := by
    rw [Server.fanOut_own, if_pos ⟨member, streams⟩, tcp]
    exact List.append_nil f
  unfold Server.tcpStream
  simp only [one]
  exact List.flatMap_id'

/-- The frames of the calls, with the packets that they carry. -/
theorem sendData_frames {cs : List DataCall} (fits : ∀ c ∈ cs, c.payload.length ≤ RTP_PAYLOAD_MAX) (ctx : RTPMuxContext) :
    ∃ ctx' fs, sendData cs ctx = some (ctx', fs) ∧
      (∀ f ∈ fs, Framing.Delimits (Rtp.readInterleaved 0) f (f.drop 4)) ∧
      (fs.map (·.drop 4)).mapM Rtp.parse = some (cs.mapIdx fun i c => c.packet (ctx.seq.toNat + i)) := by
  induction cs generalizing ctx with
  | nil => exact ⟨ctx, [], rfl, nofun, rfl⟩
  | cons c cs ih =>
    have small := fits c List.mem_cons_self
    obtain ⟨cache, send⟩ := rtpSendData_eq { ctx with timestamp := c.timestamp, ssrc := c.ssrc } c.mark small
    obtain ⟨ctx', fs, rest, delimits, parsed⟩ := ih (fun c' later => fits c' (List.mem_cons_of_mem c later))
      { ctx with timestamp := c.timestamp, ssrc := c.ssrc, cache, buf_ptr := 0, seq := nextSeq ctx.seq }
    refine ⟨ctx', frame ctx.seq c.timestamp c.ssrc c.mark c.payload :: fs, ?_, List.forall_mem_cons.mpr ⟨⟨?_, fun tail => ?_⟩, delimits⟩, ?_⟩
    · rw [sendData, send]
      simp only [Option.bind_eq_bind, Option.bind_some]
      change (do let (ctx, gs) ← sendData cs _; pure (ctx, _ :: gs)) = _
      rw [show (ctx.seq + 1) &&& 0xffff = nextSeq ctx.seq from rfl, rest]
      rfl
    · exact List.cons_ne_nil _ _
    · unfold RTP_PAYLOAD_MAX at small
      have length : ((frame ctx.seq c.timestamp c.ssrc c.mark c.payload).drop 4).length = c.payload.length + 12 := by
        show (rtpHeader ctx.seq c.timestamp c.ssrc c.mark ++ c.payload).length = _
        rw [List.length_append, rtpHeader_length, Nat.add_comm]
      exact Rtp.readInterleaved_frame 0 length (by omega) tail
    · have number (i : Nat) : UInt16.ofNat ((nextSeq ctx.seq).toNat + i) = UInt16.ofNat (ctx.seq.toNat + (i + 1)) := by
        apply UInt16.toNat.inj
        rw [nextSeq_toNat, UInt16.toNat_ofNat', UInt16.toNat_ofNat']
        omega
      rw [List.map_cons, List.mapM_cons, parse_frame, parsed, List.mapIdx_cons]
      simp only [DataCall.packet, number]
      rfl

/-- The stream of a session with TCP transport is read back as one packet for each call, whatever
the cache holds from packets before. -/
theorem tcpStream_packets (sv : Server) (i : Nat) (ctx : RTPMuxContext) (cs : List DataCall) (member : i ∈ sv.m_Clients)
    (streams : (sv.session i).m_streaming = true) (tcp : (sv.session i).m_TcpTransport = true)
    (fits : ∀ c ∈ cs, c.payload.length ≤ RTP_PAYLOAD_MAX) :
    ∃ ctx' fs, sendData cs ctx = some (ctx', fs) ∧
      readStream (sv.tcpStream i fs) = some (cs.mapIdx fun k c => c.packet (ctx.seq.toNat + k)) := by
  obtain ⟨ctx', fs, sent, delimits, parsed⟩ := sendData_frames fits ctx
  refine ⟨ctx', fs, sent, ?_⟩
  have split := @Framing.split_frames _ _ _ _ (fun f : Bytes => f) (fun f => f.drop 4) fs delimits
  rw [List.flatMap_id'] at split
  rw [tcpStream_frames member streams tcp, readStream, split]
  exact parsed

/-- One session that streams over TCP. -/
def tcpServer : Server where
  streamer := CStreamer.create ⟨fun _ => true, 2, []⟩
  m_Clients := [0]
  session := fun _ => { CRtspSession.create 5 with m_streaming := true, m_TcpTransport := true }
  receiver := Receiver.empty
  created := 1
  nodup := List.nodup_singleton 0
  born := by decide
  live := fun _ _ => rfl

theorem tcpStream_packets_two :
    let cs : List DataCall := [⟨3000, 0x12345678, List.replicate 1400 7, 0⟩, ⟨6000, 0x12345678, [], 1⟩]
    let ctx : RTPMuxContext := ⟨.zero _, .zero _, 0, 0, 1, 0, 65535, 0⟩
    (0 ∈ tcpServer.m_Clients ∧ (tcpServer.session 0).m_streaming = true ∧ (tcpServer.session 0).m_TcpTransport = true ∧
      ∀ c ∈ cs, c.payload.length ≤ RTP_PAYLOAD_MAX) ∧
      ∃ ctx' fs, sendData cs ctx = some (ctx', fs) ∧
        readStream (tcpServer.tcpStream 0 fs) = some (cs.mapIdx fun k c => c.packet (ctx.seq.toNat + k)) := by
  have fits : ∀ c ∈ ([⟨3000, 0x12345678, List.replicate 1400 7, 0⟩, ⟨6000, 0x12345678, [], 1⟩] : List DataCall),
      c.payload.length ≤ RTP_PAYLOAD_MAX :=
    List.forall_mem_cons.mpr ⟨Nat.le_of_eq List.length_replicate, List.forall_mem_singleton.mpr (Nat.zero_le _)⟩
  exact ⟨⟨List.mem_singleton_self 0, rfl, rfl, fits⟩,
    tcpStream_packets tcpServer 0 ⟨.zero _, .zero _, 0, 0, 1, 0, 65535, 0⟩ _ (List.mem_singleton_self 0) rfl rfl fits⟩

end RtspServer
