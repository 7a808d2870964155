import RtspServer.Session.RefCount

/-!
# Where a streaming session sends

`PLAY` starts the stream whether or not there was a `SETUP`, the parser switches
the transport before the request is accepted, and a deleted session may close
the sockets of the others. A streaming session has somewhere to send exactly as
long as no request or disconnect does one of these.
-/

namespace RtspServer

def Response.isSetup : Response → Bool
  | setup .. => true
  | _ => false

/-- The client port of the last accepted SETUP of session `i`. -/
def setupPort (log : List Entry) (i : Nat) : Option UInt16 :=
  (log.find? fun e => e.id = i ∧ e.sent.any Response.isSetup).map fun e => e.session.m_ClientRTPPort

def HasDestination (h : History) (i : Nat) : Prop :=
  (h.server.session i).m_TcpTransport = true ∨
    (h.server.streamer.m_RtpSocket ≠ NULLSOCKET ∧ (h.server.session i).m_RtpClientPort ≠ 0 ∧
      setupPort h.log i = some (h.server.session i).m_RtpClientPort)

def Deliverable (h : History) : Prop :=
  ∀ i ∈ h.server.m_Clients, (h.server.session i).m_streaming = true → (h.server.session i).m_stopped = false →
    HasDestination h i

/-- Requests with a known method come in one read each. -/
def ReadsWhole : Event → Prop
  | .read _ (.data bytes) => bytes = [] ∨
      ∃ t : RequestText, bytes = t.bytes ∧ t.bytes.length < RTSP_BUFFER_SIZE ∧ t.method ≠ .RTSP_UNKNOWN
  | _ => True

def CanSend (st : CStreamer) (s : CRtspSession) : Prop :=
  s.m_TcpTransport = true ∨ (st.m_RtpSocket ≠ NULLSOCKET ∧ s.m_RtpClientPort ≠ 0)

/-- What the SETUP of a streaming session asks for: `s1` is the session the parser leaves. -/
def SetupKeeps (st : CStreamer) (s s1 : CRtspSession) (accepted : Bool) : Prop :=
  s1.m_TcpTransport = true ∨
    if accepted then s1.m_ClientRTPPort ≠ 0 ∧ (st.m_udpRefCount = 0 ∨ st.m_RtpSocket ≠ NULLSOCKET)
    else st.m_RtpSocket ≠ NULLSOCKET ∧ s.m_RtpClientPort ≠ 0

/-- The sockets stay open when `i` is deleted, or no other session needs them. -/
def DeletionKeeps (sv : Server) (i : Nat) : Prop :=
  sv.streamer.m_udpRefCount = 1 → ∀ j ∈ sv.m_Clients, j ≠ i → (sv.session j).m_streaming = true →
    (sv.session j).m_TcpTransport = true

def RequestKeeps (sv : Server) (i : Nat) (bytes : Bytes) : Prop :=
  match recognise (bufferOf bytes) with
  | .RTSP_PLAY => CanSend sv.streamer (sv.session i)
  | .RTSP_SETUP => (sv.session i).m_streaming = true → ∀ s1 accepted,
      ParseRtspRequest ((sv.session i).recognised (bufferOf bytes)) (bufferOf bytes) bytes.length = .ok (s1, accepted) →
        SetupKeeps sv.streamer (sv.session i) s1 accepted
  | .RTSP_TEARDOWN => DeletionKeeps sv i
  | _ => True

/-- PLAY comes from a session that can send, the SETUP of a streaming session leaves it so,
and no deletion closes the sockets another session streams to. -/
def KeepsDestinations (h : History) : Event → Prop
  | .read i (.data bytes) => i ∈ h.server.m_Clients →
      if bytes = [] then DeletionKeeps h.server i else RequestKeeps h.server i bytes
  | _ => True

/-! ### The streamer's socket -/

theorem init_socket {st : CStreamer} (binds : st.Binds) :
    st.InitUdpTransport.m_RtpSocket ≠ NULLSOCKET ↔ st.m_udpRefCount = 0 ∨ st.m_RtpSocket ≠ NULLSOCKET := by
  unfold CStreamer.InitUdpTransport
  by_cases zero : st.m_udpRefCount ≠ 0
  · simp only [if_pos zero]
    exact ⟨.inr, fun either => either.resolve_left zero⟩
  · simp only [if_neg zero, bindFrom_first binds]
    exact iff_of_true (Nat.add_one_ne_zero _) (.inl (not_not.mp zero))

theorem release_socket {st : CStreamer} :
    st.ReleaseUdpTransport.m_RtpSocket ≠ NULLSOCKET ↔ st.m_udpRefCount ≠ 1 ∧ st.m_RtpSocket ≠ NULLSOCKET := by
  unfold CStreamer.ReleaseUdpTransport
  dsimp only
  by_cases last : st.m_udpRefCount - 1 = 0
  · rw [if_pos last]
    exact iff_of_false (fun open' => open' rfl) (fun both => by omega)
  · rw [if_neg last]
    exact ⟨fun open' => ⟨by omega, open'⟩, fun both => both.2⟩

/-! ### A call with a whole request -/

/-- What a call on session `s` does with a request of method `m`, for which the parser leaves `s1`. -/
structure Outcome (st : CStreamer) (s s1 : CRtspSession) (m : RTSP_CMD_TYPES) (accepted : Bool) (t : Turn) : Prop where
  streaming : t.session.m_streaming = true ↔ s.m_streaming = true ∨ m = .RTSP_PLAY
  stopped : t.session.m_stopped = true ↔ m = .RTSP_TEARDOWN
  tcp : t.session.m_TcpTransport = s1.m_TcpTransport
  kept : m ≠ .RTSP_SETUP → s1.m_TcpTransport = s.m_TcpTransport
  asked : t.session.m_ClientRTPPort = s1.m_ClientRTPPort
  port : t.session.m_RtpClientPort =
    if m = .RTSP_SETUP ∧ accepted then s1.m_ClientRTPPort else s.m_RtpClientPort
  streamer : t.streamer =
    if m = .RTSP_SETUP ∧ accepted ∧ s1.m_TcpTransport = false then st.InitUdpTransport else st
  setup : t.sent.any Response.isSetup = true ↔ m = .RTSP_SETUP ∧ accepted
  idle : t.receiver.Idle

theorem markCommand_fields (s : CRtspSession) :
    (s.markCommand.m_streaming = true ↔ s.m_streaming = true ∨ s.m_RtspCmdType = .RTSP_PLAY) ∧
      (s.markCommand.m_stopped = true ↔ s.m_stopped = true ∨ s.m_RtspCmdType = .RTSP_TEARDOWN) ∧
      s.markCommand.m_TcpTransport = s.m_TcpTransport ∧ s.markCommand.m_ClientRTPPort = s.m_ClientRTPPort ∧
      s.markCommand.m_RtpClientPort = s.m_RtpClientPort := by
  unfold CRtspSession.markCommand
  cases cmd : s.m_RtspCmdType <;> simp

theorem dispatch_ports (st : CStreamer) (s : CRtspSession) :
    (s.dispatch st).2.1.m_TcpTransport = s.m_TcpTransport ∧ (s.dispatch st).2.1.m_ClientRTPPort = s.m_ClientRTPPort ∧
      (s.dispatch st).2.1.m_RtpClientPort =
        (if s.m_RtspCmdType = .RTSP_SETUP then s.m_ClientRTPPort else s.m_RtpClientPort) ∧
      (s.dispatch st).1 =
        (if s.m_RtspCmdType = .RTSP_SETUP ∧ s.m_TcpTransport = false then st.InitUdpTransport else st) ∧
      ((s.dispatch st).2.2.any Response.isSetup = true ↔ s.m_RtspCmdType = .RTSP_SETUP) := by
  unfold CRtspSession.dispatch
  cases cmd : s.m_RtspCmdType with
  | RTSP_SETUP =>
    unfold CRtspSession.Handle_RtspSETUP CRtspSession.InitTransport
    cases s.m_TcpTransport <;> simp [Response.isSetup]
  | RTSP_DESCRIBE =>
    unfold CRtspSession.Handle_RtspDESCRIBE
    by_cases absent : s.requestedStream st = -1 <;> simp [absent, Response.isSetup]
  | RTSP_OPTIONS => simp [CRtspSession.Handle_RtspOPTION, Response.isSetup]
  | RTSP_PLAY => simp [CRtspSession.Handle_RtspPLAY, Response.isSetup]
  | RTSP_TEARDOWN => simp
  | RTSP_UNKNOWN => simp

theorem outcome_whole {st : CStreamer} {s : CRtspSession} {r : Receiver} {q : Bytes} {t : Turn} (whole : WholeRequest q)
    (live : s.m_stopped = false) (idle : r.Idle) (long : 6 ≤ q.length) (known : recognise (bufferOf q) ≠ .RTSP_UNKNOWN)
    (h : s.handleRequests st r (.data q) = .ok t) :
    ∃ s1 accepted, ParseRtspRequest (s.recognised (bufferOf q)) (bufferOf q) q.length = .ok (s1, accepted) ∧
      Outcome st s s1 (recognise (bufferOf q)) accepted t := by
  rw [handleRequests_whole whole live idle long, if_neg known] at h
  obtain ⟨⟨st', s', sent⟩, handled, rest⟩ := bind_ok h
  cases pure_ok rest
  have marked := markCommand_fields s'
  rcases Handle_RtspRequest_cases handled with ⟨s1, parsed, same⟩ | ⟨parsed, rfl, rfl⟩
  · have outside := ParseRtspRequest_outside parsed
    have flags := dispatch_flags st s1
    have ports := dispatch_ports st s1
    have cmd : s1.m_RtspCmdType = recognise (bufferOf q) := outside.cmd
    rw [← same, cmd] at flags ports
    rw [flags.1, flags.2.1, flags.2.2, ports.1, ports.2.1, ports.2.2.1, outside.streaming, outside.stopped] at marked
    refine ⟨s1, true, parsed, ⟨marked.1, ?_, marked.2.2.1, ?_, marked.2.2.2.1, ?_, ?_, ?_, .inl rfl⟩⟩
    · rw [marked.2.1]
      simp [CRtspSession.recognised, CRtspSession.newCommandInit, live]
    · exact fun other => (outside.transport other).1
    · rw [marked.2.2.2.2, outside.rtpPort]
      simp [CRtspSession.recognised, CRtspSession.newCommandInit]
    · simpa using ports.2.2.2.1
    · simpa using ports.2.2.2.2
  · have outside := ParseRtspRequest_outside parsed
    rw [outside.cmd, outside.streaming, outside.stopped, outside.rtpPort] at marked
    refine ⟨s', false, parsed, ⟨marked.1, ?_, marked.2.2.1, ?_, marked.2.2.2.1, ?_, ?_, ?_, .inl rfl⟩⟩
    · rw [marked.2.1]
      simp [CRtspSession.recognised, CRtspSession.newCommandInit, live]
    · exact fun other => (outside.transport other).1
    · rw [marked.2.2.2.2]
      simp [CRtspSession.recognised, CRtspSession.newCommandInit]
    · simp
    · simp

/-! ### A step -/

theorem known_long {t : RequestText} (known : t.method ≠ .RTSP_UNKNOWN) : 6 ≤ t.bytes.length := by
  have first : ¬ CRLF <+: t.line.bytes := by
    have plain := not_prefix_crlf t.line.nonempty t.line.plain []
    rwa [List.append_nil] at plain
  have five : 5 ≤ t.line.bytes.length := by
    by_contra short
    have none : ∀ word : Bytes, 5 ≤ word.length → ¬ word <+: t.line.bytes := by
      intro word long found
      have := found.length_le
      omega
    apply known
    unfold RequestText.method recognise
    rw [if_neg first, if_neg (none _ (by decide)), if_neg (none _ (by decide)), if_neg (none _ (by decide)),
      if_neg (none _ (by decide)), if_neg (none _ (by decide))]
  have two : CRLF.length = 2 := rfl
  rw [RequestText.bytes, List.length_append, List.length_append]
  omega

structure SendAmbient (h : History) : Prop where
  binds : h.server.streamer.Binds
  idle : h.server.receiver.Idle
  ports : ∀ i ∈ h.server.m_Clients, (h.server.session i).m_RtpClientPort ≠ 0 →
    setupPort h.log i = some (h.server.session i).m_RtpClientPort

def AllCanSend (sv : Server) : Prop :=
  ∀ i ∈ sv.m_Clients, (sv.session i).m_streaming = true → CanSend sv.streamer (sv.session i)

section

variable {x y : History} {e : Event} {sv : Server} {i : Nat} {read : SocketRead} {t : Turn}

theorem deliverable_iff (ambient : SendAmbient x) : Deliverable x ↔ AllCanSend x.server := by
  constructor
  · intro all i member streaming
    rcases all i member streaming (x.server.live i member) with tcp | ⟨socket, port, -⟩
    · exact .inl tcp
    · exact .inr ⟨socket, port⟩
  · intro all i member streaming _
    rcases all i member streaming with tcp | ⟨socket, port⟩
    · exact .inl tcp
    · exact .inr ⟨socket, port, ambient.ports i member port⟩

theorem turn_whole (ambient : SendAmbient x) (whole : ReadsWhole (.read i read)) (member : i ∈ x.server.m_Clients)
    (turn : x.server.turn i read = .ok t) :
    (read = .timeout ∧ t = ⟨x.server.streamer, x.server.session i, x.server.receiver.refresh, [], false⟩) ∨
    (read = .closed ∧ t = ⟨x.server.streamer, { x.server.session i with m_stopped := true },
      x.server.receiver.refresh, [], true⟩) ∨
    (∃ bytes s1 accepted, read = .data bytes ∧ bytes ≠ [] ∧ recognise (bufferOf bytes) ≠ .RTSP_UNKNOWN ∧
      ParseRtspRequest ((x.server.session i).recognised (bufferOf bytes)) (bufferOf bytes) bytes.length =
        .ok (s1, accepted) ∧
      Outcome x.server.streamer (x.server.session i) s1 (recognise (bufferOf bytes)) accepted t) := by
  have live := x.server.live i member
  rcases handleRequests_cases live turn with timeout | closed | ⟨bytes, fits, rfl, nonempty, -⟩
  · exact .inl timeout
  · exact .inr (.inl closed)
  rcases whole with empty | ⟨text, rfl, short, known⟩
  · exact absurd empty nonempty
  have named : recognise (bufferOf text.bytes) ≠ .RTSP_UNKNOWN := by rwa [recognise_text]
  obtain ⟨s1, accepted, parsed, outcome⟩ :=
    outcome_whole (RequestText.whole short) live ambient.idle (known_long known) named turn
  exact .inr (.inr ⟨text.bytes, s1, accepted, rfl, nonempty, named, parsed, outcome⟩)

theorem settle_going_canSend (all : AllCanSend sv) (member : i ∈ sv.m_Clients) (going : t.session.m_stopped = false)
    (opens : sv.streamer.m_RtpSocket ≠ NULLSOCKET → t.streamer.m_RtpSocket ≠ NULLSOCKET) :
    AllCanSend (sv.settle i t) ↔ (t.session.m_streaming = true → CanSend t.streamer t.session) := by
  obtain ⟨streamer, clients, sessions⟩ := Server.settle_going sv i going
  unfold AllCanSend
  rw [streamer, clients, sessions]
  constructor
  · intro every streaming
    have own := every i member
    rw [Function.update_self] at own
    exact own streaming
  · intro own j inside
    by_cases same : j = i
    · rw [same, Function.update_self]
      exact own
    · rw [Function.update_of_ne same]
      intro streaming
      rcases all j inside streaming with tcp | ⟨socket, port⟩
      · exact .inl tcp
      · exact .inr ⟨opens socket, port⟩

theorem settle_stopped_canSend (all : AllCanSend sv) (stopped : t.session.m_stopped = true)
    (kept : t.streamer = sv.streamer) : AllCanSend (sv.settle i t) ↔ DeletionKeeps sv i := by
  obtain ⟨streamer, clients, sessions⟩ := Server.settle_stopped sv i stopped
  unfold AllCanSend DeletionKeeps
  rw [streamer, clients, sessions, kept]
  constructor
  · intro every last j inside other streaming
    rcases every j ((List.mem_erase_of_ne other).mpr inside) streaming with tcp | ⟨socket, -⟩
    · exact tcp
    · exact absurd last (release_socket.mp socket).1
  · intro others j inside streaming
    have other : j ≠ i := fun same => sv.nodup.not_mem_erase (same ▸ inside)
    have member := List.mem_of_mem_erase inside
    rcases all j member streaming with tcp | ⟨socket, port⟩
    · exact .inl tcp
    by_cases last : sv.streamer.m_udpRefCount = 1
    · exact .inl (others last j member other streaming)
    · exact .inr ⟨release_socket.mpr ⟨last, socket⟩, port⟩

theorem setupPort_cons {s : CRtspSession} {sent : List Response} {log : List Entry} (j : Nat) :
    setupPort (⟨i, read, s, sent⟩ :: log) j =
      if i = j ∧ sent.any Response.isSetup then some s.m_ClientRTPPort else setupPort log j := by
  unfold setupPort
  by_cases found : i = j ∧ sent.any Response.isSetup = true
  · rw [if_pos found, List.find?_cons_of_pos (by simpa using found)]
    rfl
  · rw [if_neg found, List.find?_cons_of_neg (by simpa using found)]

theorem sendAmbient_turn (ambient : SendAmbient x) (whole : ReadsWhole (.read i read))
    (member : i ∈ x.server.m_Clients) (turn : x.server.turn i read = .ok t) :
    SendAmbient ⟨x.server.settle i t, ⟨i, read, t.session, t.sent⟩ :: x.log⟩ := by
  have refreshed : x.server.receiver.refresh.Idle := by
    rw [refresh_idle ambient.idle]
    exact .inl rfl
  have facts : t.receiver.Idle ∧
      ((t.sent.any Response.isSetup = true ∧ t.session.m_RtpClientPort = t.session.m_ClientRTPPort) ∨
        (t.sent.any Response.isSetup = false ∧
          t.session.m_RtpClientPort = (x.server.session i).m_RtpClientPort)) := by
    rcases turn_whole ambient whole member turn with ⟨-, rfl⟩ | ⟨-, rfl⟩ | ⟨bytes, s1, accepted, -, -, -, -, outcome⟩
    · exact ⟨refreshed, .inr ⟨rfl, rfl⟩⟩
    · exact ⟨refreshed, .inr ⟨rfl, rfl⟩⟩
    refine ⟨outcome.idle, ?_⟩
    have port := outcome.port
    by_cases setup : recognise (bufferOf bytes) = .RTSP_SETUP ∧ accepted = true
    · rw [if_pos setup] at port
      exact .inl ⟨outcome.setup.mpr setup, port.trans outcome.asked.symm⟩
    · rw [if_neg setup] at port
      exact .inr ⟨by simpa using fun sent => setup (outcome.setup.mp sent), port⟩
  obtain ⟨idle, port⟩ := facts
  constructor
  · exact settle_binds ambient.binds member turn
  · show (x.server.settle i t).receiver.Idle
    rw [Server.settle_receiver]
    exact idle
  · intro j inside nonzero
    dsimp only at inside nonzero ⊢
    rw [setupPort_cons]
    by_cases same : j = i
    swap
    · have others := Server.settle_others x.server t same
      rw [others.2] at nonzero ⊢
      rw [if_neg (fun both => same both.1.symm)]
      exact ambient.ports j (others.1.mp inside) nonzero
    -- A deleted session is no client any more.
    subst same
    obtain ⟨client, kept⟩ := Server.settle_self x.server j member t
    rw [kept (client.mp inside)] at nonzero ⊢
    rcases port with ⟨setup, equal⟩ | ⟨other, equal⟩
    · rw [if_pos ⟨rfl, setup⟩, equal]
    · rw [if_neg (fun both => by rw [other] at both; exact Bool.false_ne_true both.2), equal]
      rw [equal] at nonzero
      exact ambient.ports j member nonzero

theorem sendAmbient_step (whole : ReadsWhole e) (ambient : SendAmbient x) (taken : x.step e = .ok y) :
    SendAmbient y := by
  rcases History.step_cases taken with ⟨random, -, rfl⟩ | ⟨i, read, -, -, rfl⟩ | ⟨i, read, t, rfl, member, turn, rfl⟩
  · refine ⟨ambient.binds, ambient.idle, ?_⟩
    intro j inside nonzero
    dsimp only at inside nonzero ⊢
    by_cases new : j = x.server.created
    · rw [new, (x.server.addSession_new random).2] at nonzero
      exact absurd rfl nonzero
    · have old := x.server.addSession_old random new
      rw [old.2] at nonzero ⊢
      exact ambient.ports j (old.1.mp inside) nonzero
  · exact ambient
  · exact sendAmbient_turn ambient whole member turn

theorem canSend_request {bytes : Bytes} {s1 : CRtspSession} {accepted : Bool} (all : AllCanSend sv)
    (member : i ∈ sv.m_Clients) (binds : sv.streamer.Binds) (known : recognise (bufferOf bytes) ≠ .RTSP_UNKNOWN)
    (parsed : ParseRtspRequest ((sv.session i).recognised (bufferOf bytes)) (bufferOf bytes) bytes.length =
      .ok (s1, accepted))
    (outcome : Outcome sv.streamer (sv.session i) s1 (recognise (bufferOf bytes)) accepted t) :
    AllCanSend (sv.settle i t) ↔ RequestKeeps sv i bytes := by
  unfold RequestKeeps
  cases method : recognise (bufferOf bytes) <;> rw [method] at outcome
  case RTSP_UNKNOWN => exact absurd method known
  case RTSP_TEARDOWN => exact settle_stopped_canSend all (outcome.stopped.mpr rfl) outcome.streamer
  all_goals
    have going : t.session.m_stopped = false := by simpa using fun stopped => outcome.stopped.mp stopped
    have opens : sv.streamer.m_RtpSocket ≠ NULLSOCKET → t.streamer.m_RtpSocket ≠ NULLSOCKET := by
      rw [outcome.streamer]
      split
      · exact fun socket => (init_socket binds).mpr (.inr socket)
      · exact id
    rw [settle_going_canSend all member going opens, outcome.streaming]
    unfold CanSend
    rw [outcome.tcp, outcome.port, outcome.streamer]
  case RTSP_SETUP =>
    have only : (∀ s2 accepted', ParseRtspRequest ((sv.session i).recognised (bufferOf bytes)) (bufferOf bytes)
        bytes.length = .ok (s2, accepted') → SetupKeeps sv.streamer (sv.session i) s2 accepted') ↔
        SetupKeeps sv.streamer (sv.session i) s1 accepted := by
      rw [parsed]
      constructor
      · exact fun each => each s1 accepted rfl
      · intro keeps s2 accepted' same
        cases same
        exact keeps
    have streaming : ((sv.session i).m_streaming = true ∨ RTSP_CMD_TYPES.RTSP_SETUP = .RTSP_PLAY) ↔
        (sv.session i).m_streaming = true := by simp
    dsimp only
    rw [streaming]
    refine imp_congr_right fun _ => Iff.trans ?_ only.symm
    unfold SetupKeeps
    cases tcp : s1.m_TcpTransport with
    | true => simp
    | false =>
      cases accepted with
      | true => simp [init_socket binds, and_comm]
      | false => simp
  case RTSP_PLAY =>
    rw [outcome.kept RTSP_CMD_TYPES.noConfusion]
    simp
  all_goals
    rw [outcome.kept RTSP_CMD_TYPES.noConfusion]
    simpa [CanSend] using all i member

theorem deliverable_step (whole : ReadsWhole e) (ambient : SendAmbient x) (deliverable : Deliverable x)
    (taken : x.step e = .ok y) : Deliverable y ↔ KeepsDestinations x e := by
  have ambient' := sendAmbient_step whole ambient taken
  rw [deliverable_iff ambient']
  have all := (deliverable_iff ambient).mp deliverable
  rcases History.step_cases taken with ⟨random, rfl, rfl⟩ | ⟨i, read, rfl, gone, rfl⟩ |
    ⟨i, read, t, rfl, member, turn, rfl⟩
  · refine iff_of_true ?_ trivial
    intro j inside
    dsimp only at inside ⊢
    by_cases new : j = x.server.created
    · rw [new, (x.server.addSession_new random).2]
      exact fun streaming => absurd streaming Bool.false_ne_true
    · have old := x.server.addSession_old random new
      rw [old.2]
      exact all j (old.1.mp inside)
  · apply iff_of_true all
    cases read with
    | timeout => trivial
    | data bytes => exact fun member => absurd member gone
  · dsimp only
    rcases turn_whole ambient whole member turn with ⟨rfl, rfl⟩ | ⟨rfl, rfl⟩ |
      ⟨bytes, s1, accepted, rfl, nonempty, known, parsed, outcome⟩
    · rw [settle_going_canSend all member (x.server.live i member) id]
      exact iff_of_true (all i member) trivial
    · rw [settle_stopped_canSend all rfl rfl]
      exact ⟨fun keeps _ => by rwa [if_pos rfl], fun keeps => by simpa using keeps member⟩
    · rw [canSend_request all member ambient.binds known parsed outcome]
      exact ⟨fun keeps _ => by rwa [if_neg nonempty], fun keeps => by simpa [nonempty] using keeps member⟩

end

/-- In a run of whole requests and disconnects every streaming session has somewhere to send
in every state exactly when each step keeps the destinations. -/
theorem deliverable_iff_keeps (udp : UdpSockets) (pres stream : Bytes) (binds : ∀ port, udp.bindable port = true)
    (events : List Event) (whole : ∀ e ∈ events, ReadsWhole e) :
    Runs.Always History.step Deliverable events (History.start udp pres stream) ↔
      Runs.EachStep History.step KeepsDestinations events
        (History.start udp pres stream) := by
  have ambient : SendAmbient (History.start udp pres stream) :=
    ⟨binds, .inl rfl, fun i member => absurd member List.not_mem_nil⟩
  exact Runs.always_iff sendAmbient_step deliverable_step whole ambient fun i member => absurd member List.not_mem_nil

theorem secondCSeq_nonempty : ascii "CSeq: 2" ≠ [] := by decide

theorem secondCSeq_plain : ∀ c ∈ ascii "CSeq: 2", IsPlain c := by decide +kernel

def playRequest : RequestText :=
  ⟨⟨ascii "PLAY rtsp://h/p/s RTSP/1.0", by decide, by decide +kernel⟩,
    [⟨ascii "CSeq: 2", secondCSeq_nonempty, secondCSeq_plain⟩]⟩

theorem playRequest_whole :
    ∀ e ∈ [Event.addSession 5, .read 0 (.data playRequest.bytes)], ReadsWhole e := by
  intro e member
  simp only [List.mem_cons, List.not_mem_nil, or_false] at member
  rcases member with rfl | rfl
  · trivial
  · exact .inr ⟨playRequest, rfl, by decide, by decide⟩

theorem deliverable_iff_keeps_play :
    ((∀ port, (⟨fun _ => true, 2, []⟩ : UdpSockets).bindable port = true) ∧
        ∀ e ∈ [Event.addSession 5, .read 0 (.data playRequest.bytes)], ReadsWhole e) ∧
      (Runs.Always History.step Deliverable [.addSession 5, .read 0 (.data playRequest.bytes)]
          (History.start ⟨fun _ => true, 2, []⟩ (ascii "live") (ascii "1")) ↔
        Runs.EachStep History.step KeepsDestinations [.addSession 5, .read 0 (.data playRequest.bytes)]
          (History.start ⟨fun _ => true, 2, []⟩ (ascii "live") (ascii "1"))) :=
  ⟨⟨fun _ => rfl, playRequest_whole⟩, deliverable_iff_keeps _ _ _ (fun _ => rfl) _ playRequest_whole⟩

theorem not_deliverable_play :
    (∀ e ∈ [Event.addSession 5, .read 0 (.data playRequest.bytes)], ReadsWhole e) ∧
      ¬ Runs.Always History.step Deliverable [.addSession 5, .read 0 (.data playRequest.bytes)]
        (History.start ⟨fun _ => true, 2, []⟩ (ascii "live") (ascii "1")) := by
  refine ⟨playRequest_whole, ?_⟩
  intro always
  have facts : (Runs.run History.step [.addSession 5, .read 0 (.data playRequest.bytes)]
      (History.start ⟨fun _ => true, 2, []⟩ (ascii "live") (ascii "1"))).toOption.map
        (fun h => (h.server.m_Clients, h.server.streamer.m_RtpSocket, (h.server.session 0).m_streaming,
          (h.server.session 0).m_stopped, (h.server.session 0).m_TcpTransport)) =
      some ([0], NULLSOCKET, true, false, false) := by decide +kernel
  obtain ⟨h, run, same⟩ := Runs.run_ends facts
  simp only [Prod.mk.injEq] at same
  obtain ⟨clients, socket, streaming, stopped, tcp⟩ := same
  have last := always.last run
  rcases last 0 (by rw [clients]; exact List.mem_singleton_self 0) streaming stopped with wrong | ⟨wrong, -⟩
  · exact Bool.false_ne_true (tcp.symm.trans wrong)
  · exact wrong socket

end RtspServer
