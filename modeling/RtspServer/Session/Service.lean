import RtspServer.Session.ClientRequests
import RtspServer.Session.Isolation
import RtspServer.Session.UdpHandles

/-!
# The service behind the server

The server as its clients see it: who is connected, which transport each set up
last and who plays, with neither buffers nor sockets. The server, fed with the
bytes of whole requests in any order, is this service.
-/

namespace RtspServer

/-- A request whose method the server does not know. -/
structure OtherRequest extends RequestText where
  unknown : toRequestText.method = .RTSP_UNKNOWN
  long : 6 ≤ toRequestText.bytes.length
  fits : toRequestText.bytes.length < RTSP_BUFFER_SIZE

/-- What a request asks for. -/
inductive Order where
  | options
  | describe
  | setup (asked : Asked)
  | play
  | teardown

def ClientRequest.order (q : ClientRequest) : Order :=
  match method : q.method with
  | .OPTIONS => .options
  | .DESCRIBE => .describe
  | .SETUP => .setup (q.transport.get (q.needed method)).asked
  | .PLAY => .play
  | .TEARDOWN => .teardown

/-- A client of the service. `cseq` is the number of its last request that was understood. -/
structure Peer where
  id : Int
  cseq : UInt32
  transport : Option Asked
  playing : Bool
  deriving DecidableEq

/-- Where UDP packets for the client go. -/
def Peer.port (p : Peer) : UInt16 := p.transport.elim 0 Asked.port

/-- The stream that is served, and the port that UDP packets come from, if there is one. -/
structure Offer where
  presentation : Bytes
  stream : Bytes
  port : Option Nat

/-- `uses` are the UDP transports set up, less the clients gone. -/
structure Service where
  peer : Nat → Option Peer
  created : Nat
  uses : Int
  answers : List (Nat × List Response)

/-- What the clients do. -/
inductive Action where
  | connect (random : Nat)
  | request (i : Nat) (q : ClientRequest)
  | other (i : Nat) (q : OtherRequest)
  | wait (i : Nat)
  | hangUp (i : Nat)

namespace Offer

/-- The request names a stream on offer by its number. -/
def Has (offer : Offer) (q : ClientRequest) : Prop :=
  offer.presentation = q.presentation.chars ∧ CRtspSession.is_number q.stream.chars ∧ strstr offer.stream q.stream.chars ∧
    atoi q.stream.chars ≠ -1

instance (offer : Offer) (q : ClientRequest) : Decidable (offer.Has q) := inferInstanceAs (Decidable (_ ∧ _))

/-- The ports of the server, as long as a transport is in use. -/
@[irreducible] def serverPorts (offer : Offer) (uses : Int) : UInt16 × UInt16 :=
  match offer.port with
  | some P => if 0 < uses then (UInt16.ofNat P, UInt16.ofNat (P + 1)) else (0, 0)
  | none => (0, 0)

def reply (offer : Offer) (uses : Int) : Asked → TransportReply
  | .tcp => .tcp
  | .udp port => .udp port (port + 1) (offer.serverPorts uses).1 (offer.serverPorts uses).2

end Offer

namespace Service

def start : Service := ⟨fun _ => none, 0, 0, []⟩

def set (sv : Service) (i : Nat) (p : Option Peer) : Service := { sv with peer := Function.update sv.peer i p }

def answer (sv : Service) (i : Nat) (sent : List Response) : Service := { sv with answers := (i, sent) :: sv.answers }

def leave (sv : Service) (i : Nat) : Service := { sv.set i none with uses := sv.uses - 1 }

def request (offer : Offer) (sv : Service) (i : Nat) (p : Peer) (q : ClientRequest) : Service :=
  let n := UInt32.ofNat q.cseq
  match q.order with
  | .options => (sv.set i (some { p with cseq := n })).answer i [.option n]
  | .describe => (sv.set i (some { p with cseq := n })).answer i
      [if offer.Has q then .describe n q.hostPort.chars q.presentation.chars q.stream.chars else .notFound n]
  | .setup asked =>
    let uses := if asked = .tcp then sv.uses else sv.uses + 1
    { sv.set i (some { p with cseq := n, transport := some asked }) with uses }.answer i
      [.setup n (offer.reply uses asked) p.id]
  | .play => (sv.set i (some { p with cseq := n, playing := true })).answer i [.play n p.id]
  | .teardown => (sv.leave i).answer i []

/-- A client that is gone does nothing any more. -/
def step (offer : Offer) (sv : Service) : Action → Service
  | .connect random => { sv.set sv.created (some ⟨random - 2 ^ 31, 0, none, false⟩) with created := sv.created + 1 }
  | .request i q => (sv.peer i).elim sv fun p => sv.request offer i p q
  | .other i _ => (sv.peer i).elim sv fun p => sv.answer i [.badRequest p.cseq]
  | .wait i => (sv.peer i).elim sv fun _ => sv.answer i []
  | .hangUp i => (sv.peer i).elim sv fun _ => (sv.leave i).answer i []

def run (offer : Offer) (actions : List Action) : Service := actions.foldl (step offer) start

end Service

/-- What the server reads. -/
def Action.event : Action → Event
  | connect random => .addSession random
  | request i q => .read i (.data q.bytes)
  | other i q => .read i (.data q.toRequestText.bytes)
  | wait i => .read i .timeout
  | hangUp i => .read i .closed

/-- The first port of the pair that the search finds. -/
@[irreducible] def serverPort (udp : UdpSockets) : Option Nat :=
  ((List.range 29282).find? fun k => udp.bindable (6970 + 2 * k) && udp.bindable (6970 + 2 * k + 1)).map fun k => 6970 + 2 * k

/-! ### The representation -/

/-- The session of the client `p`. -/
structure Stands (p : Peer) (s : CRtspSession) : Prop where
  id : s.m_RtspSessionID = p.id
  cseq : s.m_CSeq = p.cseq
  playing : s.m_streaming = p.playing
  tcp : s.m_TcpTransport = decide (p.transport = some .tcp)
  port : s.m_RtpClientPort = p.port

/-- The streamer of a service with this offer, of which `uses` transports are in use. -/
structure Serving (udp : UdpSockets) (offer : Offer) (uses : Int) (st : CStreamer) : Prop where
  port : offer.port = serverPort udp
  presentation : st.m_URIPresentation = offer.presentation
  stream : st.m_URIStream = offer.stream
  count : st.m_udpRefCount = uses
  tracked : Tracked udp st

/-- The server `h` is the service `sv`. -/
structure Represents (udp : UdpSockets) (offer : Offer) (sv : Service) (h : History) : Prop where
  streamer : Serving udp offer sv.uses h.server.streamer
  created : h.server.created = sv.created
  clients : ∀ i, i ∈ h.server.m_Clients ↔ (sv.peer i).isSome
  sessions : ∀ i, ∀ p ∈ sv.peer i, Stands p (h.server.session i)
  idle : h.server.receiver.Idle
  answers : h.log.map (fun e => (e.id, e.sent)) = sv.answers

/-! ### The streamer -/

theorem serverPort_iff {udp : UdpSockets} {P : Nat} : serverPort udp = some P ↔ FirstPair udp P := by
  have pair (k : Nat) : (udp.bindable (6970 + 2 * k) && udp.bindable (6970 + 2 * k + 1)) = true ↔ udp.Pair (6970 + 2 * k) :=
    Bool.and_eq_true_iff
  unfold serverPort
  rw [Option.map_eq_some_iff]
  simp only [List.find?_range_eq_some, List.mem_range, pair, Bool.not_eq_true', ← Bool.not_eq_true]
  constructor
  · rintro ⟨k, ⟨here, inside, least⟩, rfl⟩
    refine ⟨⟨by omega, by omega, by omega⟩, here, ?_⟩
    intro Q candidate before
    obtain ⟨low, -, even⟩ := candidate
    obtain ⟨j, rfl⟩ : ∃ j, Q = 6970 + 2 * j := ⟨(Q - 6970) / 2, by omega⟩
    exact least j (by omega)
  · rintro ⟨⟨low, high, even⟩, here, least⟩
    obtain ⟨k, rfl⟩ : ∃ k, P = 6970 + 2 * k := ⟨(P - 6970) / 2, by omega⟩
    exact ⟨k, ⟨here, by omega, fun j before => least _ ⟨by omega, by omega, by omega⟩ (by omega)⟩, rfl⟩

section

variable {udp : UdpSockets} {offer : Offer} {uses : Int} {st : CStreamer}

theorem Serving.init (serving : Serving udp offer uses st) : Serving udp offer (uses + 1) st.InitUdpTransport where
  port := serving.port
  presentation := (init_uri st).pres.trans serving.presentation
  stream := (init_uri st).stream.trans serving.stream
  count := by rw [init_refCount, serving.count]
  tracked := init_tracked serving.tracked

theorem Serving.release (serving : Serving udp offer uses st) : Serving udp offer (uses - 1) st.ReleaseUdpTransport where
  port := serving.port
  presentation := (release_uri st).pres.trans serving.presentation
  stream := (release_uri st).stream.trans serving.stream
  count := by rw [release_count, serving.count]
  tracked := release_tracked serving.tracked

theorem Serving.serverPorts (serving : Serving udp offer uses st) :
    offer.serverPorts uses = (st.m_RtpServerPort, st.m_RtcpServerPort) := by
  obtain ⟨port, -, -, count, tracked⟩ := serving
  have idle (low : uses ≤ 0) : st.m_RtpServerPort = 0 ∧ st.m_RtcpServerPort = 0 := by
    have unbound := tracked.idle (by omega)
    exact ⟨unbound.rtpPort, unbound.rtcpPort⟩
  unfold Offer.serverPorts
  rw [port]
  match found : serverPort udp with
  | some P =>
    have first := serverPort_iff.mp found
    dsimp only
    split
    · rename_i positive
      obtain ⟨-, -, rtp, rtcp⟩ := tracked.found (by omega) P first
      rw [rtp, rtcp]
    · rename_i low
      obtain ⟨rtp, rtcp⟩ := idle (by omega)
      rw [rtp, rtcp]
  | none =>
    have none (P : Nat) : ¬ FirstPair udp P := fun first => by
      rw [serverPort_iff.mpr first] at found
      cases found
    obtain ⟨-, rtp, rtcp⟩ := tracked.exhausted none
    rw [rtp, rtcp]

/-- The sockets are open as long as a transport is in use. -/
theorem Serving.opened (serving : Serving udp offer uses st) (pair : offer.port.isSome) :
    st.m_RtpSocket ≠ NULLSOCKET ↔ 0 < uses := by
  obtain ⟨port, -, -, count, tracked⟩ := serving
  rw [port] at pair
  obtain ⟨P, found⟩ := Option.isSome_iff_exists.mp pair
  constructor
  · intro socket
    by_contra low
    exact socket (tracked.idle (by omega)).rtp
  · intro positive
    exact (tracked.found (by omega) P (serverPort_iff.mp found)).1

end

/-! ### A call -/

/-- The session behind the parser. -/
def ClientRequest.leaves (q : ClientRequest) (s : CRtspSession) : CRtspSession :=
  (q.parsed (s.recognised (bufferOf q.bytes))).asks q.asked

/-- What the server is to do, by method and `Transport` header. -/
inductive Ordered (q : ClientRequest) : Order → Prop
  | options (method : q.method = .OPTIONS) : Ordered q .options
  | describe (method : q.method = .DESCRIBE) : Ordered q .describe
  | setup (asked : Asked) (method : q.method = .SETUP) (same : q.asked = some asked) : Ordered q (.setup asked)
  | play (method : q.method = .PLAY) : Ordered q .play
  | teardown (method : q.method = .TEARDOWN) : Ordered q .teardown

theorem ClientRequest.ordered (q : ClientRequest) : Ordered q q.order := by
  unfold order
  split
  · exact .options ‹_›
  · exact .describe ‹_›
  · rename_i method
    refine .setup _ method ?_
    rw [asked, if_pos method, ← Option.map_some, Option.some_get]
  · exact .play ‹_›
  · exact .teardown ‹_›

section

variable {st : CStreamer} {s : CRtspSession} {r : Receiver} (q : ClientRequest)

/-- The parser leaves the rest of the session as it is. -/
structure Leaves (q : ClientRequest) (s s1 : CRtspSession) : Prop where
  cmd : s1.m_RtspCmdType = q.method.command
  host : s1.m_CommandHostPort = q.hostPort.chars
  presentation : s1.m_CommandPresentationPart = q.presentation.chars
  stream : s1.m_CommandStreamPart = q.stream.chars
  cseq : s1.m_CSeq = UInt32.ofNat q.cseq
  id : s1.m_RtspSessionID = s.m_RtspSessionID
  streaming : s1.m_streaming = s.m_streaming
  stopped : s1.m_stopped = s.m_stopped
  port : s1.m_RtpClientPort = s.m_RtpClientPort
  kept : q.asked = none → s1.m_TcpTransport = s.m_TcpTransport
  asked : ∀ a ∈ q.asked, s1.m_TcpTransport = decide (a = .tcp) ∧ s1.m_ClientRTPPort = a.port ∧
    (a ≠ .tcp → s1.m_ClientRTCPPort = a.port + 1)

theorem ClientRequest.leaves_fields (s : CRtspSession) : Leaves q s (q.leaves s) := by
  have cmd := q.recognised
  unfold leaves
  match found : q.asked with
  | none => exact ⟨cmd, rfl, rfl, rfl, rfl, rfl, rfl, rfl, rfl, fun _ => rfl, by rw [found]; nofun⟩
  | some .tcp =>
    refine ⟨cmd, rfl, rfl, rfl, rfl, rfl, rfl, rfl, rfl, by rw [found]; nofun, fun a same => ?_⟩
    rw [found] at same
    cases same
    exact ⟨rfl, rfl, fun other => absurd rfl other⟩
  | some (.udp port) =>
    refine ⟨cmd, rfl, rfl, rfl, rfl, rfl, rfl, rfl, rfl, by rw [found]; nofun, fun a same => ?_⟩
    rw [found] at same
    cases same
    exact ⟨rfl, rfl, fun _ => rfl⟩

/-- A call with a request of a client. -/
theorem ClientRequest.turn (live : s.m_stopped = false) (idle : r.Idle) :
    s.handleRequests st r (.data q.bytes) = .ok ⟨((q.leaves s).dispatch st).1, ((q.leaves s).dispatch st).2.1.markCommand,
      Receiver.empty, ((q.leaves s).dispatch st).2.2, true⟩ := by
  have known : recognise (bufferOf q.bytes) ≠ .RTSP_UNKNOWN := by
    rw [q.recognised]
    cases q.method <;> exact RTSP_CMD_TYPES.noConfusion
  have parses : ParseRtspRequest (s.recognised (bufferOf q.bytes)) (bufferOf q.bytes) q.bytes.length =
      .ok (q.leaves s, true) := q.parses q.recognised _
  rw [handleRequests_whole q.whole live idle q.long, if_neg known, CRtspSession.Handle_RtspRequest, parses]
  rfl

/-- A request served: the client goes on as `p'`, with this answer. -/
structure Granted (udp : UdpSockets) (offer : Offer) (uses : Int) (p' : Peer) (sent : List Response)
    (d : CStreamer × CRtspSession × List Response) : Prop where
  streamer : Serving udp offer uses d.1
  stands : Stands p' d.2.1.markCommand
  going : d.2.1.markCommand.m_stopped = false
  sent : d.2.2 = sent

variable {udp : UdpSockets} {offer : Offer} {uses : Int} {p : Peer} {s1 : CRtspSession} {q}

theorem granted_unmarked {d : CStreamer × CRtspSession × List Response} {sent : List Response}
    (serving : Serving udp offer uses d.1) (play : d.2.1.m_RtspCmdType ≠ .RTSP_PLAY) (teardown : d.2.1.m_RtspCmdType ≠ .RTSP_TEARDOWN)
    (stands : Stands p d.2.1) (going : d.2.1.m_stopped = false) (answered : d.2.2 = sent) : Granted udp offer uses p sent d := by
  have marked : d.2.1.markCommand = d.2.1 := by
    unfold CRtspSession.markCommand
    cases cmd : d.2.1.m_RtspCmdType <;> first | rfl | contradiction
  refine ⟨serving, ?_, ?_, answered⟩ <;> rw [marked]
  · exact stands
  · exact going

theorem Leaves.stands (leaves : Leaves q s s1) (stands : Stands p s) (none : q.asked = none) :
    Stands { p with cseq := UInt32.ofNat q.cseq } s1 :=
  ⟨leaves.id.trans stands.id, leaves.cseq, leaves.streaming.trans stands.playing, (leaves.kept none).trans stands.tcp,
    leaves.port.trans stands.port⟩

theorem asked_other (method : q.method ≠ .SETUP) : q.asked = none := if_neg method

variable (leaves : Leaves q s s1) (stands : Stands p s) (live : s.m_stopped = false) (serving : Serving udp offer uses st)

include leaves stands live serving

theorem granted_options (method : q.method = .OPTIONS) :
    Granted udp offer uses { p with cseq := UInt32.ofNat q.cseq } [.option (UInt32.ofNat q.cseq)] (s1.dispatch st) := by
  have cmd : s1.m_RtspCmdType = .RTSP_OPTIONS := by rw [leaves.cmd, method]; rfl
  have none := asked_other (q := q) (by rw [method]; exact Method.noConfusion)
  have handled : s1.dispatch st = (st, s1, s1.Handle_RtspOPTION) := by
    rw [CRtspSession.dispatch, cmd]
  have answered : s1.Handle_RtspOPTION = [.option (UInt32.ofNat q.cseq)] := by
    rw [CRtspSession.Handle_RtspOPTION, leaves.cseq]
  rw [handled]
  refine granted_unmarked serving ?_ ?_ (leaves.stands stands none) (leaves.stopped.trans live) answered <;>
    (rw [cmd]; exact RTSP_CMD_TYPES.noConfusion)

theorem granted_describe (method : q.method = .DESCRIBE) :
    Granted udp offer uses { p with cseq := UInt32.ofNat q.cseq } [if offer.Has q then
      .describe (UInt32.ofNat q.cseq) q.hostPort.chars q.presentation.chars q.stream.chars else .notFound (UInt32.ofNat q.cseq)]
      (s1.dispatch st) := by
  have cmd : s1.m_RtspCmdType = .RTSP_DESCRIBE := by rw [leaves.cmd, method]; rfl
  have none := asked_other (q := q) (by rw [method]; exact Method.noConfusion)
  have known : s1.requestedStream st = -1 ↔ ¬ offer.Has q := by
    unfold CRtspSession.requestedStream Offer.Has
    rw [leaves.presentation, leaves.stream, serving.presentation, serving.stream]
    split
    · rename_i named
      exact ⟨fun bad all => all.2.2.2 bad, fun lacks => by_contra fun good => lacks ⟨named.1, named.2.1, named.2.2, good⟩⟩
    · rename_i named
      exact iff_of_true rfl fun all => named ⟨all.1, all.2.1, all.2.2.1⟩
  have handled : s1.dispatch st = (st, s1.Handle_RtspDESCRIBE st) := by
    rw [CRtspSession.dispatch, cmd]
  have answered : (s1.Handle_RtspDESCRIBE st).2 = [if offer.Has q then
      .describe (UInt32.ofNat q.cseq) q.hostPort.chars q.presentation.chars q.stream.chars
      else .notFound (UInt32.ofNat q.cseq)] := by
    rw [CRtspSession.Handle_RtspDESCRIBE, leaves.cseq, leaves.host, leaves.presentation, leaves.stream,
      if_congr known rfl rfl, ite_not]
    split <;> rfl
  have own := leaves.stands stands none
  rw [handled]
  refine granted_unmarked serving ?_ ?_ ⟨own.id, own.cseq, own.playing, own.tcp, own.port⟩ (leaves.stopped.trans live)
    answered <;> (show s1.m_RtspCmdType ≠ _; rw [cmd]; exact RTSP_CMD_TYPES.noConfusion)

theorem granted_setup {a : Asked} (method : q.method = .SETUP) (asked : q.asked = some a) :
    Granted udp offer (if a = .tcp then uses else uses + 1) { p with cseq := UInt32.ofNat q.cseq, transport := some a }
      [.setup (UInt32.ofNat q.cseq) (offer.reply (if a = .tcp then uses else uses + 1) a) p.id] (s1.dispatch st) := by
  have cmd : s1.m_RtspCmdType = .RTSP_SETUP := by rw [leaves.cmd, method]; rfl
  obtain ⟨tcp, rtp, rtcp⟩ := leaves.asked a asked
  have streamer : Serving udp offer (if a = .tcp then uses else uses + 1) (if a = .tcp then st else st.InitUdpTransport) := by
    split
    · exact serving
    · exact serving.init
  have handled : s1.dispatch st = s1.Handle_RtspSETUP st := by
    rw [CRtspSession.dispatch, cmd]
  have opened : (s1.Handle_RtspSETUP st).1 = if a = .tcp then st else st.InitUdpTransport := by
    show (if s1.m_TcpTransport then st else st.InitUdpTransport) = _
    rw [tcp]
    cases a <;> rfl
  have answered : (s1.Handle_RtspSETUP st).2.2 =
      [.setup (UInt32.ofNat q.cseq) (offer.reply (if a = .tcp then uses else uses + 1) a) p.id] := by
    show [Response.setup s1.m_CSeq (if s1.m_TcpTransport then .tcp else .udp s1.m_ClientRTPPort s1.m_ClientRTCPPort
      (s1.Handle_RtspSETUP st).1.m_RtpServerPort (s1.Handle_RtspSETUP st).1.m_RtcpServerPort) s1.m_RtspSessionID] = _
    rw [opened, tcp, rtp, leaves.cseq, leaves.id, stands.id]
    cases a with
    | tcp => rfl
    | udp port =>
      have ports := serving.init.serverPorts
      rw [rtcp Asked.noConfusion]
      show [Response.setup _ (.udp port (port + 1) st.InitUdpTransport.m_RtpServerPort st.InitUdpTransport.m_RtcpServerPort) _] =
        [.setup _ (.udp port (port + 1) (offer.serverPorts (uses + 1)).1 (offer.serverPorts (uses + 1)).2) _]
      rw [ports]
  rw [handled]
  refine granted_unmarked (by rw [opened]; exact streamer) ?_ ?_ ⟨leaves.id.trans stands.id, leaves.cseq,
    leaves.streaming.trans stands.playing, tcp.trans (by simp), rtp⟩ (leaves.stopped.trans live) answered <;>
    (show s1.m_RtspCmdType ≠ _; rw [cmd]; exact RTSP_CMD_TYPES.noConfusion)

theorem granted_play (method : q.method = .PLAY) :
    Granted udp offer uses { p with cseq := UInt32.ofNat q.cseq, playing := true } [.play (UInt32.ofNat q.cseq) p.id]
      (s1.dispatch st) := by
  have cmd : s1.m_RtspCmdType = .RTSP_PLAY := by rw [leaves.cmd, method]; rfl
  have none := asked_other (q := q) (by rw [method]; exact Method.noConfusion)
  have sent : s1.dispatch st = (st, s1, [.play (UInt32.ofNat q.cseq) p.id]) := by
    rw [CRtspSession.dispatch, cmd]
    dsimp only
    rw [CRtspSession.Handle_RtspPLAY, leaves.cseq, leaves.id, stands.id]
  have marked : s1.markCommand = { s1 with m_streaming := true } := by
    rw [CRtspSession.markCommand, cmd]
  have own := leaves.stands stands none
  rw [sent]
  refine ⟨serving, ?_, ?_, rfl⟩ <;> rw [marked]
  · exact ⟨own.id, own.cseq, rfl, own.tcp, own.port⟩
  · exact leaves.stopped.trans live

omit stands live serving in
theorem dispatch_teardown (method : q.method = .TEARDOWN) :
    s1.dispatch st = (st, s1, []) ∧ s1.markCommand.m_stopped = true := by
  have cmd : s1.m_RtspCmdType = .RTSP_TEARDOWN := by rw [leaves.cmd, method]; rfl
  constructor
  · rw [CRtspSession.dispatch, cmd]
  · rw [CRtspSession.markCommand, cmd]

end

end RtspServer
